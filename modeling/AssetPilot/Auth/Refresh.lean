import AssetPilot.Auth.Escalation

/-!
# Refreshing

Access and refresh tokens have one format and one key, and differ in one claim that every reader checks. A
refresh token stands for its user and for nothing else: role, email and activity are read again when it is
used.
-/

namespace AssetPilot

open Relational System Txn

/-- Both tokens have the id, the role and the email of the user. -/
structure TokenResult.Carries (tokens : TokenResult) (encode : JwtPayload → String) (issuer : String)
    (user : User) : Prop where
  access : ∃ iat exp, tokens.accessToken = encode
    { sub := user.id.str
      type := TokenType.access.value
      iat := iat
      exp := exp
      iss := issuer
      role := user.role.value
      email := user.email }
  refresh : ∃ iat exp, tokens.refreshToken = encode
    { sub := user.id.str
      type := TokenType.refresh.value
      iat := iat
      exp := exp
      iss := issuer
      role := user.role.value
      email := user.email }

/-- The two kinds of tokens do not mix, and a refresh reads the user again. -/
structure AuthState.KindsApart (s : AuthState) (v : Verifier) (encode : JwtPayload → String)
    (timely : Int → Datetime → Prop) (issuer : String) : Prop where
  /-- A refresh takes the live refresh tokens of the users that are active by then. -/
  succeeds_iff : ∀ ctx token, ctx.Deployed encode issuer → s.Unforged encode issuer token →
    ((∃ tokens db, (AuthService.refresh v token).Runs ctx s.db tokens db) ↔
      ∃ m ∈ s.minted, m.text = token ∧ m.type = .refresh ∧ m.Live timely (ctx.clock 0) ∧
        ∃ user, s.db.users.get? m.user.id = some user ∧ user.isActive = true)
  /-- The new tokens are about the user of the old one, as the row is now. -/
  carries : ∀ ctx, ctx.Deployed encode issuer → ∀ m ∈ s.minted, ∀ tokens db,
    (AuthService.refresh v m.text).Runs ctx s.db tokens db →
      ∃ user, s.db.users.get? m.user.id = some user ∧ tokens.Carries encode issuer user
  access_refused : ∀ ctx, ctx.Deployed encode issuer → ∀ m ∈ s.minted, m.type = .access → ∀ tokens db,
    ¬ (AuthService.refresh v m.text).Runs ctx s.db tokens db
  refresh_refused : ∀ ctx, ctx.Deployed encode issuer → ∀ m ∈ s.minted, m.type = .refresh → ∀ user db,
    ¬ (getCurrentUser v (some m.text)).Runs ctx s.db user db ∧
      ¬ (requireItAdmin v (some m.text)).Runs ctx s.db user db

variable {v : Verifier} {encode : JwtPayload → String} {timely : Int → Datetime → Prop} {issuer : String}
  {start s : AuthState} {ctx : Ctx}
  {db db' : Db} {m : Minted} {user : User} {tokens : TokenResult} {token : String}

theorem TokenType.value_injective : Function.Injective TokenType.value := by
  intro t t' h
  cases t <;> cases t' <;> first | rfl | exact absurd h (by decide)

theorem AuthService.runs_refresh : (AuthService.refresh v token).Runs ctx db tokens db' ↔
    ∃ user, (AuthService.refreshedUser v token).Runs ctx db user db' ∧
      (AuthService.tokensFor 1 user).Runs ctx db' tokens db' := by
  simp only [refresh, runs_bind, runs_tokensFor]
  constructor
  · rintro ⟨user, db₁, huser, rfl, rfl⟩
    exact ⟨user, huser, rfl, trivial⟩
  · rintro ⟨user, huser, rfl, -⟩
    exact ⟨user, db', huser, rfl, rfl⟩

theorem carries_of_tokensFor {k : Nat} (hctx : ctx.Deployed encode issuer)
    (h : (AuthService.tokensFor k user).Runs ctx db tokens db') : tokens.Carries encode issuer user := by
  obtain ⟨rfl, -⟩ := AuthService.runs_tokensFor.mp h
  refine ⟨⟨ctx.clock k, ctx.clock k + ctx.settings.lifetime .access, ?_⟩,
    ⟨ctx.clock (k + 1), ctx.clock (k + 1) + ctx.settings.lifetime .refresh, ?_⟩⟩
  · simp only [Ctx.payload, hctx.encode, hctx.issuer]
  · simp only [Ctx.payload, hctx.encode, hctx.issuer]

theorem Minted.Genuine.runs_refreshedUser (hm : m.Genuine encode issuer) (hv : v.Decodes encode timely)
    (hctx : ctx.Deployed encode issuer) : (AuthService.refreshedUser v m.text).Runs ctx db user db' ↔
      m.type = .refresh ∧ m.Live timely (ctx.clock 0) ∧ db.users.get? m.user.id = some user ∧
        user.isActive = true ∧ db' = db := by
  rw [AuthService.runs_refreshedUser, hctx.issuer]
  constructor
  · rintro ⟨claims, hdecode, htype, hsub, huser, hactive, rfl⟩
    obtain ⟨hlive, hsub', htype', -⟩ := hm.decoded hv hdecode
    rw [hsub', Option.bind_some, UUID.parse_str] at hsub
    have hid : m.user.id = user.id := Option.some.inj hsub
    have hkind : m.type.value = TokenType.refresh.value := Option.some.inj (htype'.symm.trans htype)
    exact ⟨TokenType.value_injective hkind, hlive, hid ▸ huser, hactive, rfl⟩
  · rintro ⟨htype, hlive, huser, hactive, rfl⟩
    obtain ⟨claims, hdecode⟩ := hm.decodes hv hlive
    obtain ⟨-, hsub, htype', -⟩ := hm.decoded hv hdecode
    have hid : user.id = m.user.id := Table.get?_key huser
    refine ⟨claims, hdecode, htype ▸ htype', ?_, hid ▸ huser, hactive, rfl⟩
    rw [hsub, Option.bind_some, UUID.parse_str, hid]

theorem kindsApart_of_genuine (hv : v.Decodes encode timely) (hgenuine : ∀ m ∈ s.minted, m.Genuine encode issuer) :
    s.KindsApart v encode timely issuer where
  succeeds_iff ctx token hctx hunforged := by
    constructor
    · rintro ⟨tokens, db, h⟩
      obtain ⟨user, huser, -⟩ := AuthService.runs_refresh.mp h
      obtain ⟨claims, hdecode, -⟩ := AuthService.runs_refreshedUser.mp huser
      rw [hctx.issuer] at hdecode
      obtain ⟨m, hm, rfl⟩ := exists_minted hv hunforged hdecode
      obtain ⟨htype, hlive, hstored, hactive, -⟩ := ((hgenuine m hm).runs_refreshedUser hv hctx).mp huser
      exact ⟨m, hm, rfl, htype, hlive, user, hstored, hactive⟩
    · rintro ⟨m, hm, rfl, htype, hlive, user, hstored, hactive⟩
      have huser := ((hgenuine m hm).runs_refreshedUser hv hctx).mpr ⟨htype, hlive, hstored, hactive, rfl⟩
      exact ⟨_, s.db, AuthService.runs_refresh.mpr ⟨user, huser, AuthService.runs_tokensFor.mpr ⟨rfl, rfl⟩⟩⟩
  carries ctx hctx m hm tokens db h := by
    obtain ⟨user, huser, htokens⟩ := AuthService.runs_refresh.mp h
    obtain ⟨-, -, hstored, -, -⟩ := ((hgenuine m hm).runs_refreshedUser hv hctx).mp huser
    exact ⟨user, hstored, carries_of_tokensFor hctx htokens⟩
  access_refused ctx hctx m hm haccess tokens db h := by
    obtain ⟨user, huser, -⟩ := AuthService.runs_refresh.mp h
    obtain ⟨hrefresh, -⟩ := ((hgenuine m hm).runs_refreshedUser hv hctx).mp huser
    exact absurd (haccess.symm.trans hrefresh) (by decide)
  refresh_refused ctx hctx m hm hrefresh user db := by
    have hcurrent : ¬ (getCurrentUser v (some m.text)).Runs ctx s.db user db := by
      intro h
      obtain ⟨text, htext, -, hdecode, htype, -⟩ := runs_getCurrentUser.mp h
      obtain rfl := Option.some.inj htext
      rw [hctx.issuer] at hdecode
      obtain ⟨-, -, htype', -⟩ := (hgenuine m hm).decoded hv hdecode
      have hkind : m.type.value = TokenType.access.value := Option.some.inj (htype'.symm.trans htype)
      exact absurd (hrefresh.symm.trans (TokenType.value_injective hkind)) (by decide)
    exact ⟨hcurrent, fun h => hcurrent (runs_requireItAdmin.mp h).1⟩

/-- **Token kinds do not mix and a refresh reads the user again**, in every state of a run in which the
deployment keeps its key and its issuer. -/
theorem kindsApart_of_run (hv : v.Decodes encode timely) (hminted : start.minted = [])
    (run : Run (AuthStep v) (fun _ e => e.ctx.Deployed encode issuer) start s) :
    s.KindsApart v encode timely issuer := by
  refine kindsApart_of_genuine hv ?_
  refine run.inv (P := fun s => ∀ m ∈ s.minted, m.Genuine encode issuer) ?_ ?_
  · intro s e s' hs hok hstep
    exact genuine_of_step hok hstep hs
  · simp [hminted]

/-- Ann registers as a manager. -/
def Sample.registration : AuthEvent where
  ctx := keyed
  bearer := none
  call := .register "Ann" "ann@example.com" .manager "password"

/-- The administrator makes her an employee. -/
def Sample.demotion : AuthEvent where
  ctx := keyed
  bearer := some (accessToken admin)
  call := .changeRole 100 .employee

/-- Her tokens say that she is a manager, and her row does not any more. -/
theorem kindsApart_of_run_demotion :
    (Sample.demotion.exec Sample.verifier
      (Sample.registration.exec Sample.verifier Sample.administered)).KindsApart Sample.verifier Sample.sign
        JwtPayload.notAhead "asset-pilot" :=
  kindsApart_of_run Sample.verifier_decodes rfl
    (.step (.step .refl Sample.registration Sample.keyed_deployed rfl) Sample.demotion Sample.keyed_deployed rfl)

end AssetPilot
