import AssetPilot.Auth.System
import AssetPilot.Invariants.Store

/-!
# Who passes the role gate

`require_it_admin` looks at the role in the token, and the token has the role that the user had when it was
made. Behind every token that the gate accepts there is a user who was an administrator at the start or was
made one by an administrator, as long as nobody registers as an administrator: `register` takes the role from
its payload.
-/

namespace AssetPilot

open Relational System Txn

/-- The user was an administrator at the start, or an administrator made it one. -/
def AuthState.Authorised (start s : AuthState) (u : UUID) : Prop :=
  (∃ w ∈ start.db.users.rows, w.id = u ∧ w.role = .itAdmin) ∨ u ∈ s.granted

/-- The event happens in the deployment, and a call behind the role gate comes with a token that it accepts. -/
structure AuthEvent.Gated (v : Verifier) (encode : JwtPayload → String) (issuer : String) (s : AuthState)
    (e : AuthEvent) : Prop where
  deployed : e.ctx.Deployed encode issuer
  gate : e.call.isAdmin = true → ∃ user, (requireItAdmin v e.bearer).Runs e.ctx s.db user s.db

/-- Nobody new registers as an administrator with a password that can be hashed. -/
def AuthEvent.NoAdminRegisters (s : AuthState) (e : AuthEvent) : Prop :=
  ∀ name email password, e.call = .register name email .itAdmin password →
    (∃ u ∈ s.db.users.rows, u.email = email) ∨ e.ctx.hashpw password = none

variable {v : Verifier} {encode : JwtPayload → String} {timely : Int → Datetime → Prop} {issuer : String}
  {start s s' : AuthState}
  {e : AuthEvent}

/-- Administrators, and the tokens with their role, are authorised. -/
structure AuthState.AdminsAuthorised (start s : AuthState) : Prop where
  users : ∀ u ∈ s.db.users.rows, u.role = .itAdmin → start.Authorised s u.id
  minted : ∀ m ∈ s.minted, m.user.role = .itAdmin → start.Authorised s m.user.id

/-- **One call** makes administrators of authorised users only. -/
theorem AuthState.AdminsAuthorised.step (h : start.AdminsAuthorised s) (hgated : e.Gated v encode issuer s)
    (hregisters : e.NoAdminRegisters s) (hstep : AuthStep v s e s') : start.AdminsAuthorised s' := by
  rcases hstep.cases with rfl | ⟨minted, db, hruns, rfl⟩
  · exact h
  have hkept : ∀ u, start.Authorised s u →
      start.Authorised ⟨db, s.minted ++ minted, s.granted ++ e.granted v s.db⟩ u :=
    fun u hu => hu.imp_right (List.mem_append_left _)
  have husers : ∀ u ∈ db.users.rows, u.role = .itAdmin →
      start.Authorised ⟨db, s.minted ++ minted, s.granted ++ e.granted v s.db⟩ u.id := by
    intro u hu hrole
    rcases AuthCall.users_cases hruns hu with ⟨w, hw, hid, hsame⟩ | ⟨name, email, password, hcall, hemail, hhash⟩ |
      ⟨hadmin, hgrants⟩
    · exact hid ▸ hkept w.id (h.users w hw (hsame.trans hrole))
    · rw [hrole] at hcall
      rcases hregisters name email password hcall with ⟨w, hw, hused⟩ | hrefused
      · exact absurd hused (hemail w hw)
      · exact absurd hrefused hhash
    · -- an administrator's call, and the gate has let it through
      obtain ⟨user, hgate⟩ := hgated.gate hadmin
      refine .inr (List.mem_append_right _ ?_)
      rw [AuthEvent.granted, if_pos hgate.succeeds]
      exact hgrants hrole
  refine ⟨husers, fun m hm hrole => ?_⟩
  rcases List.mem_append.mp hm with hm | hm
  · exact hkept m.user.id (h.minted m hm hrole)
  · rcases AuthCall.minted_cases hruns with rfl | ⟨k, user, hmint, hstored⟩
    · exact absurd hm List.not_mem_nil
    · obtain ⟨-, rfl⟩ := genuine_of_mintFor ⟨rfl, rfl⟩ hmint m hm
      exact husers m.user hstored hrole

/-- **No privilege escalation**: in every run in which nobody registers as an administrator, a token that
passes the role gate belongs to an authorised user. -/
theorem authorised_of_run (hv : v.Decodes encode timely) (hminted : start.minted = [])
    (run : Run (AuthStep v) (fun s e => e.Gated v encode issuer s ∧ e.NoAdminRegisters s) start s) :
    ∀ ctx token user db, ctx.Deployed encode issuer → s.Unforged encode issuer token →
      (requireItAdmin v (some token)).Runs ctx s.db user db →
        ∃ u : UUID, user.subject = u.str ∧ start.Authorised s u := by
  have hinv : start.AdminsAuthorised s ∧ ∀ m ∈ s.minted, m.Genuine encode issuer := by
    refine run.inv (P := fun s => start.AdminsAuthorised s ∧ ∀ m ∈ s.minted, m.Genuine encode issuer) ?_ ?_
    · intro s e s' hs hok hstep
      exact ⟨hs.1.step hok.1 hok.2 hstep, genuine_of_step hok.1.deployed hstep hs.2⟩
    · refine ⟨⟨fun u hu hrole => .inl ⟨u, hu, rfl, hrole⟩, ?_⟩, ?_⟩
      · simp [hminted]
      · simp [hminted]
  intro ctx token user db hctx hunforged hgate
  obtain ⟨hcurrent, hrole⟩ := runs_requireItAdmin.mp hgate
  obtain ⟨t, ht, -, hdecode, -, hsub, -, -⟩ := runs_getCurrentUser.mp hcurrent
  obtain rfl := Option.some.inj ht
  rw [hctx.issuer] at hdecode
  obtain ⟨m, hm, rfl⟩ := exists_minted hv hunforged hdecode
  obtain ⟨-, hsub', -, hrole'⟩ := (hinv.2 m hm).decoded hv hdecode
  refine ⟨m.user.id, Option.some.inj (hsub.symm.trans hsub'), hinv.1.minted m hm ?_⟩
  exact UserRole.value_injective (Option.some.inj (hrole'.symm.trans hrole))

/-! ### The gate in a small deployment -/

namespace Sample

/-- Calls at time 5 under the small key. -/
def keyed : Ctx := { ctx with jwtEncode := sign }

theorem keyed_deployed : keyed.Deployed sign "asset-pilot" := ⟨rfl, rfl⟩

def admin : User := { employee 9 "it@example.com" with role := .itAdmin }

/-- User 9 is the administrator, and nobody has a token. -/
def administered : AuthState where
  db := { store with users := ⟨[employee 1 "one@example.com", admin], by decide⟩ }
  minted := []
  granted := []

/-- The access token of a user. -/
def accessToken (user : User) : String := sign (keyed.payload 0 user .access)

/-- What the gate reads in it. -/
def accessPayload (user : User) : TokenPayload where
  subject := user.id.str
  claims := (keyed.payload 0 user .access).claims

theorem sign_ne_empty (p : JwtPayload) : sign p ≠ "" := by
  intro h
  have hread := unsign_sign p
  rw [h, show unsign "" = none from by decide] at hread
  cases hread

theorem str_ne_empty (u : UUID) : u.str ≠ "" := by
  intro h
  have hread := UUID.parse_str u
  rw [h, show UUID.parse "" = none from by decide] at hread
  cases hread

/-- The access token of an administrator passes, whatever is in the database by then. -/
theorem gate_accepts {user : User} (hrole : user.role = .itAdmin) (db : Db) :
    (requireItAdmin verifier (some (accessToken user))).Runs keyed db (accessPayload user) db := by
  have htimely : JwtPayload.notAhead (JwtPayload.seconds (keyed.payload 0 user .access).iat) (keyed.clock 0) := by
    show JwtPayload.seconds 5 * 1000000 ≤ 5
    decide
  have hexpired : ¬ (keyed.payload 0 user .access).Expired (keyed.clock 0) := by
    show ¬ JwtPayload.seconds (5 + minutes 30) * 1000000 ≤ 5
    decide
  have hdecode : verifier.jwtDecode (keyed.clock 0) keyed.settings.jwtIssuer (accessToken user) =
      .ok (accessPayload user).claims :=
    (verifier_decodes.accepts _ _ _ _).mpr ⟨keyed.payload 0 user .access, rfl, rfl, htimely, hexpired, rfl⟩
  refine runs_requireItAdmin.mpr ⟨runs_getCurrentUser.mpr ?_, ?_⟩
  · exact ⟨accessToken user, rfl, sign_ne_empty _, hdecode, rfl, rfl, str_ne_empty _, rfl⟩
  · exact congrArg (fun r => some (UserRole.value r)) hrole

/-- The administrator logs in. -/
def login : AuthEvent where
  ctx := keyed
  bearer := none
  call := .authenticate "it@example.com" "hash"

/-- The administrator makes another one. -/
def promotion : AuthEvent where
  ctx := keyed
  bearer := some (accessToken admin)
  call := .createUser "New" "new@example.com" .itAdmin

/-- Somebody registers as an administrator. -/
def intrusion : AuthEvent where
  ctx := keyed
  bearer := none
  call := .register "Eve" "eve@example.com" .itAdmin "password"

end Sample

/-- The administrator logs in and makes another one; the token that did it is an authorised user's. -/
theorem authorised_of_run_promotion :
    ∃ u : UUID, UUID.str 9 = u.str ∧ Sample.administered.Authorised
      (Sample.promotion.exec Sample.verifier (Sample.login.exec Sample.verifier Sample.administered)) u := by
  have run : Run (AuthStep Sample.verifier)
      (fun s e => e.Gated Sample.verifier Sample.sign "asset-pilot" s ∧ e.NoAdminRegisters s)
      Sample.administered
      (Sample.promotion.exec Sample.verifier (Sample.login.exec Sample.verifier Sample.administered)) :=
    .step (.step .refl Sample.login ⟨⟨Sample.keyed_deployed, nofun⟩, nofun⟩ rfl) Sample.promotion
      ⟨⟨Sample.keyed_deployed, fun _ => ⟨Sample.accessPayload Sample.admin, Sample.gate_accepts rfl _⟩⟩, nofun⟩
      rfl
  refine authorised_of_run Sample.verifier_decodes rfl run Sample.keyed (Sample.accessToken Sample.admin)
    (Sample.accessPayload Sample.admin) _ Sample.keyed_deployed (fun p _ _ => ?_) (Sample.gate_accepts rfl _)
  exact ⟨_, List.mem_cons_self, rfl⟩

/-- Whoever registers as an administrator passes the role gate with the token of the registration. -/
theorem register_not_authorised :
    Sample.verifier.Decodes Sample.sign JwtPayload.notAhead ∧
      Run (AuthStep Sample.verifier) (fun s e => e.Gated Sample.verifier Sample.sign "asset-pilot" s)
        Sample.administered (Sample.intrusion.exec Sample.verifier Sample.administered) ∧
      ∃ token user, (Sample.intrusion.exec Sample.verifier Sample.administered).Unforged Sample.sign
          "asset-pilot" token ∧
        (requireItAdmin Sample.verifier (some token)).Runs Sample.keyed
          (Sample.intrusion.exec Sample.verifier Sample.administered).db user
          (Sample.intrusion.exec Sample.verifier Sample.administered).db ∧
        ∀ u : UUID, user.subject = u.str →
          ¬ Sample.administered.Authorised (Sample.intrusion.exec Sample.verifier Sample.administered) u := by
  refine ⟨Sample.verifier_decodes, .step .refl Sample.intrusion ⟨Sample.keyed_deployed, nofun⟩ rfl, ?_⟩
  let eve : User := UserService.newUser 100 "Eve" "eve@example.com" "password" .itAdmin
  refine ⟨Sample.accessToken eve, Sample.accessPayload eve, fun p _ _ => ⟨_, List.mem_cons_self, rfl⟩,
    Sample.gate_accepts rfl _, fun u hu => ?_⟩
  obtain rfl : (100 : UUID) = u := UUID.str_injective hu
  rintro (⟨w, hw, hid, -⟩ | hgranted)
  · revert w
    decide
  · exact absurd hgranted List.not_mem_nil

end AssetPilot
