import AssetPilot.Api.System

/-!
# Who may act, for how long, and in whose name

The role gate reads nothing but the token. Who passes it holds an unexpired access token that was made for an
administrator; a user who loses the role or the account keeps passing until the last such token ends, and no
longer. Every row of the audit log that a run adds names somebody who was an active administrator in the run, or
nobody where the system acts by itself.
-/

namespace AssetPilot

open Relational System Txn

variable {v : Verifier} {encode : JwtPayload → String} {timely : Int → Datetime → Prop} {issuer : String} {ctx : Ctx}
  {db db' : Db} {start s s' : ApiState} {e : ApiEvent} {minted : List Minted} {u : UUID} {t lifetime : Datetime}

/-! ### Who passes -/

/-- The token opens the gate at `now` for the user `u`: it was handed out as an access token, to an administrator,
and is live. -/
def ApiState.Opens (s : ApiState) (timely : Int → Datetime → Prop) (token : String) (now : Datetime) (u : UUID) :
    Prop :=
  ∃ m ∈ s.minted, m.text = token ∧ m.type = .access ∧ m.user.id = u ∧ m.user.role = .itAdmin ∧ m.Live timely now

/-- **Who passes the role gate**: in every state that requests without forged tokens reach, whoever shows a token
that was made for an administrator, is not ahead of the clock and has not ended, whatever has become of the user
since. -/
theorem gate_iff_of_run (hv : v.Decodes encode timely) (hminted : start.minted = [])
    (run : Run (ApiStep v) (fun s e => e.Honest encode issuer s) start s) :
    ∀ ctx token, ctx.Deployed encode issuer → s.Unforged encode issuer token → token ≠ "" → ∀ u : UUID,
      ((∃ user, (requireItAdmin v (some token)).Runs ctx s.db user s.db ∧ user.subject = u.str) ↔
        s.Opens timely token (ctx.clock 0) u) := by
  have hissued := issued_of_run hminted run
  intro ctx token hctx hunforged hne u
  constructor
  · rintro ⟨user, hgate, hsubject⟩
    obtain ⟨hcurrent, hrole⟩ := runs_requireItAdmin.mp hgate
    have hbearer : ∀ x ∈ some token, s.Unforged encode issuer x := fun x hx => Option.some.inj hx ▸ hunforged
    obtain ⟨m, hm, htext, htype, hlive, hsub, hrole'⟩ := hissued.of_current hv hctx hbearer hcurrent
    refine ⟨m, hm, (Option.some.inj htext).symm, htype, UUID.str_injective (hsub.symm.trans hsubject), ?_, hlive⟩
    exact UserRole.value_injective (Option.some.inj (hrole'.symm.trans hrole))
  · rintro ⟨m, hm, rfl, htype, rfl, hrole, hlive⟩
    obtain ⟨claims, hdecode⟩ := (hissued.genuine m hm).decodes hv hlive
    obtain ⟨-, hsub, htype', hrole'⟩ := (hissued.genuine m hm).decoded hv hdecode
    refine ⟨⟨m.user.id.str, claims⟩, runs_requireItAdmin.mpr ⟨runs_getCurrentUser.mpr ?_, ?_⟩, rfl⟩
    · refine ⟨m.text, rfl, hne, ?_, htype ▸ htype', hsub, Sample.str_ne_empty _, rfl⟩
      rw [hctx.issuer]
      exact hdecode
    · exact hrole ▸ hrole'

/-- The login of the administrator opens the gate. -/
theorem gate_iff_of_run_login :
    (∃ user, (requireItAdmin Sample.verifier (some (Sample.accessToken Sample.admin))).Runs Sample.keyed
      Sample.loggedIn.db user Sample.loggedIn.db ∧ user.subject = UUID.str 9) ∧
      Sample.loggedIn.Opens JwtPayload.notAhead (Sample.accessToken Sample.admin) (Sample.keyed.clock 0) 9 := by
  have hpasses : ∃ user, (requireItAdmin Sample.verifier (some (Sample.accessToken Sample.admin))).Runs
      Sample.keyed Sample.loggedIn.db user Sample.loggedIn.db ∧ user.subject = UUID.str 9 :=
    ⟨Sample.accessPayload Sample.admin, Sample.gate_accepts rfl _, rfl⟩
  exact ⟨hpasses, (gate_iff_of_run Sample.verifier_decodes rfl Sample.loggedIn_run Sample.keyed
    (Sample.accessToken Sample.admin) Sample.keyed_deployed Sample.loggedIn_unforged
    (Sample.sign_ne_empty _) 9).mp hpasses⟩

/-! ### For how long -/

/-- The user is stored, and is no active administrator. -/
def ApiState.Revoked (s : ApiState) (u : UUID) : Prop :=
  ∃ w, s.db.users.get? u = some w ∧ ¬ (w.isActive = true ∧ w.role = .itAdmin)

/-- The request gives the user the account or the role back. -/
def ApiEvent.Restores (u : UUID) : ApiEvent → Prop
  | .http request => request.target = .admin (.activateUser u) ∨
      request.target = .admin (.changeRole u .itAdmin)
  | .portal _ _ => False

/-- The request is answered by the time `t`, and its access tokens are good for `lifetime` at most. -/
def ApiEvent.Before (t lifetime : Datetime) : ApiEvent → Prop
  | .http request => (∀ k, request.ctx.clock k ≤ t) ∧ request.ctx.settings.lifetime .access ≤ lifetime
  | .portal _ _ => True

theorem ApiEvent.Effect.user_stays (h : e.Effect v s s') {w : User} (hw : s.db.users.get? u = some w) :
    s'.db.users.get? u = some w ∨ ∃ request route user op w' t', e = .http request ∧
      request.target = .admin route ∧ route.call.Calls user op ∧ op.Administers w w' ∧
        s'.db.users.get? u = some { w' with updatedAt := t' } := by
  cases h with
  | nothing hdb => exact .inl (hdb ▸ hw)
  | @admin request s' route user op htarget hgate hissues hcalls hop =>
    rcases (Op.users hop).1.stays hw with hsame | ⟨_, _, w', t', he, hwrites, hw'⟩
    · exact .inl hsame
    · obtain ⟨-, rfl⟩ := Event.service.inj he
      exact .inr ⟨request, route, user, op, w', t', rfl, htarget, hcalls, hwrites, hw'⟩
  | auth htarget hissues htokens =>
    rcases AuthRoute.tokens_db htokens with hdb | ⟨name, email, role, password, -, hop⟩
    · exact .inl (hdb ▸ hw)
    · rcases (Op.users hop).1.stays hw with hsame | ⟨_, _, w', t', he, hwrites, -⟩
      · exact .inl hsame
      · -- a registration writes no stored user
        obtain ⟨-, rfl⟩ := Event.service.inj he
        cases hwrites
  | portal hstep => exact .inl ((PortalStep.users hstep).1 ▸ hw)

theorem ApiState.Revoked.step (h : s.Revoked u) (hok : ¬ e.Restores u) (hstep : ApiStep v s e s') :
    s'.Revoked u := by
  obtain ⟨w, hw, hno⟩ := h
  obtain rfl : w.id = u := Table.get?_key hw
  rcases hstep.effect.user_stays hw with hsame | ⟨request, route, user, op, w', t', rfl, htarget, hcalls, hwrites, hw'⟩
  · exact ⟨w, hsame, hno⟩
  · refine ⟨_, hw', ?_⟩
    cases hwrites with
    | @changeRole _ role =>
      -- the endpoint that calls `change_role` is the one of that name
      have hroute : route = .changeRole w.id role := by
        cases route <;> cases hcalls
        rfl
      rintro ⟨-, hadmin⟩
      exact hok (.inr (htarget.trans (by rw [hroute, show role = .itAdmin from hadmin])))
    | deactivate => exact fun hboth => Bool.false_ne_true hboth.1
    | activate =>
      have hroute : route = .activateUser w.id := by
        cases route <;> cases hcalls
        rfl
      exact absurd (.inl (htarget.trans (hroute ▸ rfl))) hok

theorem expires_of_mintFor {k : Nat} {user : User} (h : (mintFor k user).Runs ctx db minted db') {m : Minted}
    (hm : m ∈ minted) (htype : m.type = .access) : m.expires = ctx.clock k + ctx.settings.lifetime .access := by
  obtain ⟨tokens, -, rfl⟩ := runs_mintFor.mp h
  simp only [Ctx.minted, List.mem_cons, List.not_mem_nil, or_false] at hm
  rcases hm with rfl | rfl
  · rfl
  · cases htype

theorem expires_of_run (hminted : start.minted = [])
    (run : Run (ApiStep v) (fun s e => e.Honest encode issuer s ∧ e.Before t lifetime) start s) :
    ∀ m ∈ s.minted, m.type = .access → m.expires ≤ t + lifetime := by
  refine run.inv (P := fun s => ∀ m ∈ s.minted, m.type = .access → m.expires ≤ t + lifetime) ?_
    (by simp [hminted])
  intro s e s' hold hok hstep m hm htype
  cases hstep.effect with
  | nothing _ hminted => exact hold m (hminted ▸ hm) htype
  | admin _ _ _ _ _ hminted => exact hold m (hminted ▸ hm) htype
  | portal _ hminted => exact hold m (hminted ▸ hm) htype
  | auth htarget hissues htokens hminted =>
    rw [hminted] at hm
    rcases List.mem_append.mp hm with hm | hm
    · exact hold m hm htype
    · rcases AuthRoute.tokens_minted htokens with rfl | ⟨k, user, hmint, -⟩
      · exact absurd hm List.not_mem_nil
      · obtain ⟨hclock, hlifetime⟩ := hok.2
        rw [expires_of_mintFor hmint hm htype]
        exact Int.add_le_add (hclock k) hlifetime

theorem minted_of_revoked (hrevoked : s.Revoked u)
    (after : Run (ApiStep v) (fun s e => e.Honest encode issuer s ∧ ¬ e.Restores u) s s') :
    ∀ m ∈ s'.minted, m.user.id = u → m.user.role = .itAdmin → m ∈ s.minted := by
  refine (after.inv (P := fun s' => s'.Revoked u ∧
    ∀ m ∈ s'.minted, m.user.id = u → m.user.role = .itAdmin → m ∈ s.minted) ?_ ⟨hrevoked, ?_⟩).2
  · rintro s₁ e s₂ ⟨hrev, hold⟩ ⟨hhonest, hok⟩ hstep
    have hrev' := hrev.step hok hstep
    refine ⟨hrev', fun m hm hid hrole => ?_⟩
    rcases hstep.effect.minted_cases hhonest hm with hm | ⟨-, hstored, hactive⟩
    · exact hold m hm hid hrole
    · obtain ⟨w, hw, hno⟩ := hrev'
      have hmem := Table.mem_iff_get?.mp hstored
      rw [show Keyed.key m.user = u from hid, hw] at hmem
      obtain rfl := Option.some.inj hmem
      exact absurd ⟨hactive, hrole⟩ hno
  · exact fun m hm _ _ => hm

/-- **A revoked administrator is locked out in bounded time**: when nobody restores the user, the gate lets
nothing through in its name once the lifetime of an access token has passed since the revocation. -/
theorem revoked_of_run (hv : v.Decodes encode timely) (hminted : start.minted = [])
    (before : Run (ApiStep v) (fun s e => e.Honest encode issuer s ∧ e.Before t lifetime) start s)
    (hrevoked : s.Revoked u)
    (after : Run (ApiStep v) (fun s e => e.Honest encode issuer s ∧ ¬ e.Restores u) s s') :
    ∀ ctx bearer user db', ctx.Deployed encode issuer → (∀ token ∈ bearer, s'.Unforged encode issuer token) →
      (requireItAdmin v bearer).Runs ctx s'.db user db' → user.subject = u.str → ctx.clock 0 < t + lifetime := by
  have hissued : s'.Issued encode issuer := by
    have hstart : s.Issued encode issuer := before.inv (P := fun s => s.Issued encode issuer)
      (fun _ _ _ h hok hstep => h.step hok.1 hstep) (by constructor <;> simp [hminted])
    exact after.inv (P := fun s => s.Issued encode issuer) (fun _ _ _ h hok hstep => h.step hok.1 hstep) hstart
  intro ctx bearer user db' hctx hbearer hgate hsubject
  obtain ⟨hcurrent, hrole⟩ := runs_requireItAdmin.mp hgate
  obtain ⟨m, hm, -, htype, hlive, hsub, hrole'⟩ := hissued.of_current hv hctx hbearer hcurrent
  have hid : m.user.id = u := UUID.str_injective (hsub.symm.trans hsubject)
  have hadmin : m.user.role = .itAdmin := UserRole.value_injective (Option.some.inj (hrole'.symm.trans hrole))
  have hends := expires_of_run hminted before m (minted_of_revoked hrevoked after m hm hid hadmin) htype
  -- the end in the token is cut to the second
  have hcut : JwtPayload.seconds m.expires * 1000000 ≤ m.expires := Int.ediv_mul_le m.expires (by decide)
  exact lt_of_lt_of_le (not_le.mp hlive.2) (hcut.trans hends)

namespace Sample

/-- The administrator deactivates its own account. -/
def resignation : ApiEvent := http (some (accessToken admin)) (.admin (.deactivateUser 9))

theorem loggedIn_db : loggedIn.db = administered.db := rfl

theorem deactivate_runs :
    (Op.deactivate 9).run.Runs keyed administered.db () ((Op.deactivate 9).run.exec keyed administered.db) := rfl

theorem resignation_exec :
    (resignation.exec verifier loggedIn).db = (Op.deactivate 9).run.exec keyed administered.db ∧
      (resignation.exec verifier loggedIn).minted = loggedIn.minted := by
  let request := httpRequest (some (accessToken admin)) (.admin (.deactivateUser 9))
  have hruns : (request.target.endpoint verifier request.bearer).Runs request.ctx loggedIn.db
      ((200, "User deactivated."), []) ((Op.deactivate 9).run.exec keyed administered.db) := by
    rw [loggedIn_db]
    refine runs_bind.mpr ⟨(200, "User deactivated."), _, Route.runs_endpoint.mpr ?_, rfl⟩
    exact ⟨accessPayload admin, .deactivate 9, gate_accepts rfl _, rfl, .plain, deactivate_runs, rfl⟩
  rw [resignation, http, ApiEvent.exec_of_runs request hruns]
  exact ⟨rfl, List.append_nil _⟩

end Sample

/-- The administrator logs in at 5 and resigns; its token opens the gate until half an hour later, and this is all
that anybody can do in its name. -/
theorem revoked_of_run_resignation : Sample.keyed.clock 0 < 5 + minutes 30 := by
  have before : Run (ApiStep Sample.verifier)
      (fun s e => e.Honest Sample.sign "asset-pilot" s ∧ e.Before 5 (minutes 30)) Sample.api
      (Sample.resignation.exec Sample.verifier Sample.loggedIn) := by
    refine .step (.step .refl (Sample.http none (.auth (.login "it@example.com" "hash")))
      ⟨⟨Sample.keyed_deployed, nofun⟩, fun _ => le_rfl, le_rfl⟩ rfl) Sample.resignation
      ⟨⟨Sample.keyed_deployed, fun token htoken => ?_⟩, fun _ => le_rfl, le_rfl⟩ rfl
    obtain rfl := Option.some.inj htoken
    exact Sample.loggedIn_unforged
  have hrevoked : (Sample.resignation.exec Sample.verifier Sample.loggedIn).Revoked 9 := by
    rw [ApiState.Revoked, Sample.resignation_exec.1]
    exact ⟨_, rfl, by decide⟩
  refine revoked_of_run Sample.verifier_decodes rfl before hrevoked .refl Sample.keyed
    (some (Sample.accessToken Sample.admin)) (Sample.accessPayload Sample.admin) _ Sample.keyed_deployed ?_
    (Sample.gate_accepts rfl _) rfl
  intro token htoken p hiss hsigned
  obtain rfl := Option.some.inj htoken
  rw [Sample.resignation_exec.2]
  exact Sample.loggedIn_unforged p hiss hsigned

/-! ### In whose name -/

/-- In some state of the run the user was an active administrator. -/
def WasAdmin (v : Verifier) (encode : JwtPayload → String) (issuer : String) (start s : ApiState) (u : UUID) :
    Prop :=
  ∃ s₁ w, Run (ApiStep v) (fun s e => e.Honest encode issuer s) start s₁ ∧
    Run (ApiStep v) (fun s e => e.Honest encode issuer s) s₁ s ∧
      s₁.db.users.get? u = some w ∧ w.isActive = true ∧ w.role = .itAdmin

/-- The system closes tickets in nobody's name; every other row names an administrator of the run. -/
def DeviceLog.Accounted (v : Verifier) (encode : JwtPayload → String) (issuer : String) (start s : ApiState)
    (l : DeviceLog) : Prop :=
  if l.eventType = .supportAutoClosed then l.actorRole = .system ∧ l.actorId = none
  else l.actorRole = .itAdmin ∧ ∃ u, l.actorId = some u ∧ WasAdmin v encode issuer start s u

theorem WasAdmin.step (h : WasAdmin v encode issuer start s u) (hok : e.Honest encode issuer s)
    (hstep : ApiStep v s e s') : WasAdmin v encode issuer start s' u := by
  obtain ⟨s₁, w, run, run', hw⟩ := h
  exact ⟨s₁, w, run, run'.step e hok hstep, hw⟩

theorem DeviceLog.Accounted.step {l : DeviceLog} (h : l.Accounted v encode issuer start s)
    (hok : e.Honest encode issuer s) (hstep : ApiStep v s e s') : l.Accounted v encode issuer start s' := by
  unfold DeviceLog.Accounted at h ⊢
  split_ifs at h ⊢ with hauto
  · exact h
  · obtain ⟨hrole, u, hu, hwas⟩ := h
    exact ⟨hrole, u, hu, hwas.step hok hstep⟩

theorem wasAdmin_of_run (hminted : start.minted = [])
    (run : Run (ApiStep v) (fun s e => e.Honest encode issuer s) start s) :
    ∀ m ∈ s.minted, m.user.role = .itAdmin → WasAdmin v encode issuer start s m.user.id := by
  induction run with
  | refl => simp [hminted]
  | step run e hok hstep ih =>
    intro m hm hrole
    rcases hstep.effect.minted_cases hok hm with hold | ⟨-, hstored, hactive⟩
    · exact (ih m hold hrole).step hok hstep
    · exact ⟨_, m.user, run.step e hok hstep, .refl, Table.mem_iff_get?.mp hstored, hactive, hrole⟩

theorem wasAdmin_of_gate (hv : v.Decodes encode timely) (hminted : start.minted = [])
    (run : Run (ApiStep v) (fun s e => e.Honest encode issuer s) start s) {bearer : Option String}
    {user : TokenPayload} (hctx : ctx.Deployed encode issuer)
    (hbearer : ∀ token ∈ bearer, s.Unforged encode issuer token)
    (hgate : (requireItAdmin v bearer).Runs ctx s.db user db') (hparse : UUID.parse user.subject = some u) :
    WasAdmin v encode issuer start s u := by
  obtain ⟨hcurrent, hrole⟩ := runs_requireItAdmin.mp hgate
  obtain ⟨m, hm, -, -, -, hsubject, hrole'⟩ := (issued_of_run hminted run).of_current hv hctx hbearer hcurrent
  rw [hsubject, UUID.parse_str] at hparse
  obtain rfl := Option.some.inj hparse
  exact wasAdmin_of_run hminted run m hm (UserRole.value_injective (Option.some.inj (hrole'.symm.trans hrole)))

theorem ApiEvent.Effect.appends (h : e.Effect v s s') :
    s'.db.deviceLog = s.db.deviceLog ∨ ∃ request user, ∃ op : Op, ∃ rows, e = .http request ∧
      (requireItAdmin v request.bearer).Runs request.ctx s.db user s.db ∧
        (∀ u ∈ op.caller, UUID.parse user.subject = some u) ∧
          s'.db.deviceLog = s.db.deviceLog ++ rows ∧ ∀ l ∈ rows, l.Attributed op.caller := by
  cases h with
  | nothing hdb => exact .inl (congrArg Db.deviceLog hdb)
  | @admin request s' route user op htarget hgate hissues hcalls hop =>
    obtain ⟨rows, haudit⟩ := Op.audited_of_runs hop
    exact .inr ⟨request, user, op, rows, rfl, hgate, fun _ hu => hcalls.caller route.passes hu, haudit.appended,
      haudit.attributed⟩
  | auth htarget hissues htokens =>
    rcases AuthRoute.tokens_db htokens with hdb | ⟨name, email, role, password, -, hop⟩
    · exact .inl (congrArg Db.deviceLog hdb)
    · exact .inl (Op.items_of_leavesItems rfl hop).2
  | portal hstep => exact .inl (PortalStep.frame hstep).1

/-- **The audit log is accountable**: requests without forged tokens only append to the log, and whom a row names
was an active administrator within the run. -/
theorem accountable_of_run (hv : v.Decodes encode timely) (hminted : start.minted = [])
    (run : Run (ApiStep v) (fun s e => e.Honest encode issuer s) start s) :
    ∃ rows, s.db.deviceLog = start.db.deviceLog ++ rows ∧
      ∀ l ∈ rows, l.Accounted v encode issuer start s := by
  induction run with
  | refl => exact ⟨[], (List.append_nil _).symm, fun _ hl => absurd hl List.not_mem_nil⟩
  | step run e hok hstep ih =>
    obtain ⟨rows, hlog, hrows⟩ := ih
    have hold : ∀ l ∈ rows, l.Accounted v encode issuer start _ := fun l hl => (hrows l hl).step hok hstep
    rcases hstep.effect.appends with hsame | ⟨request, user, op, rows', rfl, hgate, hcaller, hlog', hattributed⟩
    · exact ⟨rows, hsame.trans hlog, hold⟩
    · refine ⟨rows ++ rows', by rw [hlog', hlog, List.append_assoc], fun l hl => ?_⟩
      rcases List.mem_append.mp hl with hl | hl
      · exact hold l hl
      · -- the caller of the event passed the gate in the state before it
        have hrow := hattributed l hl
        unfold DeviceLog.Attributed at hrow
        unfold DeviceLog.Accounted
        split_ifs at hrow ⊢ with hauto
        · exact hrow
        · obtain ⟨hrole, hne, hactor⟩ := hrow
          obtain ⟨u, hu⟩ := Option.ne_none_iff_exists'.mp hne
          have hwas := wasAdmin_of_gate hv hminted run hok.1 hok.2 hgate (hcaller u (hactor.symm.trans hu))
          exact ⟨hrole, u, hu, hwas.step hok hstep⟩

/-- Laptop 2 goes to repair in the name of the administrator who logged in. -/
theorem accountable_of_run_repair : ∃ rows,
    (Sample.repair.exec Sample.verifier Sample.loggedIn).db.deviceLog = Sample.api.db.deviceLog ++ rows ∧
      ∀ l ∈ rows, l.Accounted Sample.verifier Sample.sign "asset-pilot" Sample.api
        (Sample.repair.exec Sample.verifier Sample.loggedIn) :=
  accountable_of_run Sample.verifier_decodes rfl Sample.repair_run

end AssetPilot
