import AssetPilot.Secrecy.Stores
import AssetPilot.Services.AuthService

/-!
# The user services and the hashes

The services of the users, from stores that differ in password hashes. They carry the hash of a user along, and
what they answer is the same.
-/

namespace AssetPilot

open Relational Txn
open SQLAlchemyRepository (flushed born stored)

variable {ctx : Ctx} {db db' : Db} {u u' : User}

/-- The same user, and such stores. -/
def SameUser (o o' : Option User) (db db' : Db) : Prop := o.map User.masked = o'.map User.masked ∧ db.Alike db'

theorem Unseeing.of_user {α : Type} {x : Service (Option User)} {f : Option User → Service α}
    (hx : ∀ ctx db db', db.Alike db' → Coupled SameUser x x ctx db db') (hmasked : ∀ o, f o = f (o.map User.masked))
    (hf : ∀ o, Unseeing (f o)) : Unseeing (x >>= f) := by
  intro ctx db db' h
  refine (hx ctx db db' h).bind fun o o' t t' hsame => ?_
  rw [hmasked o', ← hsame.1, ← hmasked o]
  exact hf o ctx t t' hsame.2

theorem User.eq_of_masked {β : Type} {f : User → β} (hf : ∀ u, f u.masked = f u) (h : u.masked = u'.masked) :
    f u = f u' :=
  (hf u).symm.trans ((congrArg f h).trans (hf u'))

/-! ### The table -/

namespace Db.Alike

/-- The unique index on the emails does not look at the hashes. -/
theorem userIntegral (h : db.Alike db') (hsame : u.masked = u'.masked) : db.UserIntegral u ↔ db'.UserIntegral u' := by
  have hemails (rows : List User) : (∀ x ∈ rows, x.id ≠ u.id → x.email ≠ u.email) ↔
      ∀ x ∈ rows.map User.masked, x.id ≠ u.masked.id → x.email ≠ u.masked.email := by
    rw [List.forall_mem_map]
    rfl
  have hid : u.id = u'.id := User.eq_of_masked (fun _ => rfl) hsame
  have hemail : u.email = u'.email := User.eq_of_masked (fun _ => rfl) hsame
  have hmanager : u.managerId = u'.managerId := User.eq_of_masked (fun _ => rfl) hsame
  unfold Db.UserIntegral
  rw [← hid, ← hemail, ← hmanager]
  refine and_congr ?_ (h.references _)
  exact (hemails _).trans (h.users ▸ (hemails _).symm)

theorem userChecks (h : db.Alike db') (hsame : u.masked = u'.masked)
    (hnull : u.passwordHash ≠ none ↔ u'.passwordHash ≠ none)
    (hfits : (∀ hash ∈ u.passwordHash, IsVarchar hash) ↔ ∀ hash ∈ u'.passwordHash, IsVarchar hash) :
    Model.constraints db u = Model.constraints db' u' := by
  have hname : u.name = u'.name := User.eq_of_masked (fun _ => rfl) hsame
  have hemail : u.email = u'.email := User.eq_of_masked (fun _ => rfl) hsame
  refine constraintCheck_congr ?_ (and_congr hnull (h.userIntegral hsame))
  rw [User.Fits, User.Fits, hname, hemail]
  exact and_congr_right' (and_congr_right' hfits)

theorem setUser (h : db.Alike db') (hsame : u.masked = u'.masked) (hu : u.Hashed) (hu' : u'.Hashed) :
    (db.setUser u).Alike (db'.setUser u') := by
  have hid : u.id = u'.id := User.eq_of_masked (fun _ => rfl) hsame
  have hrows (rows : List User) (x : User) : (rows.map fun y => if y.id = x.id then x else y).map User.masked =
      (rows.map User.masked).map fun y => if y.id = x.id then x.masked else y := by
    rw [List.map_map, List.map_map]
    refine List.map_congr_left fun y _ => ?_
    exact apply_ite User.masked _ _ _
  refine ⟨?_, Table.forall_mem_set h.hashed hu, Table.forall_mem_set h.hashed' hu', ?_⟩
  · refine (hrows _ _).trans (Eq.trans ?_ (hrows _ _).symm)
    rw [h.users, hsame, hid]
  · conv_lhs => rw [h.rest]
    rfl

theorem addUser (h : db.Alike db') (hfresh : db.users.get? u.id = none) (hu : u.Hashed) :
    (db.addUser u).Alike (db'.addUser u) := by
  have hfresh' : db'.users.get? u.id = none := h.get?_eq_none.mp hfresh
  have hrows : (db.addUser u).users.rows = db.users.rows ++ [u] := congrArg Table.rows (dif_pos hfresh)
  have hrows' : (db'.addUser u).users.rows = db'.users.rows ++ [u] := congrArg Table.rows (dif_pos hfresh')
  refine ⟨?_, fun x hx => ?_, fun x hx => ?_, ?_⟩
  · rw [hrows, hrows', List.map_append, List.map_append, h.users]
  · rcases (Table.mem_insert hfresh).mp hx with hx | rfl
    · exact h.hashed x hx
    · exact hu
  · rcases (Table.mem_insert hfresh').mp hx with hx | rfl
    · exact h.hashed' x hx
    · exact hu
  · conv_lhs => rw [h.rest]
    rfl

end Db.Alike

/-! ### The repository -/

/-- A user as both stores have him. -/
structure StoredAlike (u u' : User) (db db' : Db) : Prop where
  masked : u.masked = u'.masked
  left : db.users.get? u.id = some u
  right : db'.users.get? u'.id = some u'
  alike : db.Alike db'

/-- A change of a user that leaves the key and the texts. -/
structure User.Edit (f : User → User) : Prop where
  id : ∀ u, (f u).id = u.id
  name : ∀ u, (f u).name = u.name
  email : ∀ u, (f u).email = u.email
  passwordHash : ∀ u, (f u).passwordHash = u.passwordHash
  masked : ∀ u, (f u).masked = f u.masked

namespace UserRepository

theorem coupled_getById {id : UUID} (h : db.Alike db') : Coupled SameUser (getById id) (getById id) ctx db db' :=
  ⟨h.get? id, h⟩

theorem coupled_getByEmail {email : String} (h : db.Alike db') :
    Coupled SameUser (getByEmail email) (getByEmail email) ctx db db' :=
  ⟨h.find? fun _ => rfl, h⟩

theorem hashed_of_constraints (h : Model.constraints db u = .ok ()) : u.Hashed := by
  obtain ⟨hfits, hintegral⟩ := constraintCheck_ok.mp h
  exact ⟨hintegral.1, hfits.2.2⟩

theorem unseeing_create (u : User) : Unseeing (create u) := by
  intro ctx db db' h
  have hchecks : Model.constraints db (born ctx u) = Model.constraints db' (born ctx u) :=
    h.userChecks rfl Iff.rfl Iff.rfl
  have hfresh : stored db (born ctx u) = none ↔ stored db' (born ctx u) = none := h.get?_eq_none
  rcases (create u).runs_or_fails ctx db with ⟨row, t, hruns⟩ | ⟨e, hfails⟩
  · obtain ⟨hnone, hok, rfl, rfl⟩ := SQLAlchemyRepository.runs_create.mp hruns
    have hruns' : (create u).Runs ctx db' _ _ :=
      SQLAlchemyRepository.runs_create.mpr ⟨hfresh.mp hnone, hchecks ▸ hok, rfl, rfl⟩
    exact .of_runs hruns hruns' ⟨rfl, h.addUser hnone (hashed_of_constraints hok)⟩
  · refine .of_fails hfails (SQLAlchemyRepository.fails_create.mpr ?_)
    rw [ne_eq, ← hfresh, ← hchecks]
    exact SQLAlchemyRepository.fails_create.mp hfails

variable {f : User → User}

/-- Whether an edit changes the stored user shows without the hash. -/
theorem stored_edit (h : db.users.get? u.id = some u) (hf : User.Edit f) :
    stored db (f u) = some (f u) ↔ u.masked = f u.masked := by
  have hstored : stored db (f u) = some u := (congrArg db.users.get? (hf.id u)).trans h
  rw [hstored, Option.some_inj, ← hf.masked]
  constructor
  · exact fun heq => congrArg User.masked heq
  · intro heq
    calc u = { u.masked with passwordHash := u.passwordHash } := rfl
      _ = { (f u).masked with passwordHash := (f u).passwordHash } := by rw [heq, hf.passwordHash]
      _ = f u := rfl

theorem assign_edit (h : db.users.get? u.id = some u) (hf : User.Edit f) :
    Model.assign (stored db (f u)) (f u) = f u := by
  have hstored : stored db (f u) = some u := (congrArg db.users.get? (hf.id u)).trans h
  rw [hstored]
  exact User.assign_of_texts (hf.name u) (hf.email u) (hf.passwordHash u)

/-- The flush stamps the user in both stores or in neither, and leaves the hash. -/
theorem flushed_edit (h : StoredAlike u u' db db') (hf : User.Edit f) :
    (flushed ctx db (f u)).masked = (flushed ctx db' (f u')).masked ∧ (flushed ctx db (f u)).Hashed ∧
      (flushed ctx db' (f u')).Hashed := by
  have hsame : (f u).masked = (f u').masked := by rw [hf.masked, hf.masked, h.masked]
  have hupdated : (f u).updatedAt = (f u').updatedAt := User.eq_of_masked (fun _ => rfl) hsame
  have hchanged : stored db (f u) = some (f u) ↔ stored db' (f u') = some (f u') := by
    rw [stored_edit h.left hf, stored_edit h.right hf, h.masked]
  have hmasked (now : Datetime) (x : User) : (Model.touch now x).masked = Model.touch now x.masked := rfl
  have hhash (now : Datetime) (x : User) (hx : x.Hashed) : (Model.touch now (f x)).Hashed := by
    unfold User.Hashed at hx ⊢
    rwa [show (Model.touch now (f x)).passwordHash = x.passwordHash from hf.passwordHash x]
  unfold SQLAlchemyRepository.flushed
  rw [assign_edit h.left hf, assign_edit h.right hf]
  refine ⟨?_, hhash _ u (h.alike.hashed u (Table.get?_mem h.left)),
    hhash _ u' (h.alike.hashed' u' (Table.get?_mem h.right))⟩
  rw [hmasked, hmasked, hsame]
  congr 1
  exact if_congr hchanged hupdated rfl

theorem coupled_update (h : StoredAlike u u' db db') (hf : User.Edit f) :
    Coupled (fun row row' t t' => row.masked = row'.masked ∧ t.Alike t') (update (f u)) (update (f u')) ctx db db' := by
  obtain ⟨hmasked, hhashed, hhashed'⟩ := flushed_edit h hf
  have hchecks := h.alike.userChecks hmasked (iff_of_true hhashed.1 hhashed'.1) (iff_of_true hhashed.2 hhashed'.2)
  rcases (update (f u)).runs_or_fails ctx db with ⟨row, t, hruns⟩ | ⟨e, hfails⟩
  · obtain ⟨hok, rfl, rfl⟩ := runs_update.mp hruns
    have hruns' : (update (f u')).Runs ctx db' _ _ := runs_update.mpr ⟨hchecks ▸ hok, rfl, rfl⟩
    exact .of_runs hruns hruns' ⟨hmasked, h.alike.setUser hmasked hhashed hhashed'⟩
  · refine .of_fails hfails (SQLAlchemyRepository.fails_update.mpr ?_)
    rw [← hchecks]
    exact SQLAlchemyRepository.fails_update.mp hfails

end UserRepository

namespace UserRepository

theorem coupled_hasActiveDevicesOrRequests (h : StoredAlike u u' db db') :
    Coupled (fun holds holds' t t' => holds = holds' ∧ StoredAlike u u' t t') (hasActiveDevicesOrRequests u.id)
      (hasActiveDevicesOrRequests u'.id) ctx db db' := by
  have hid : u.id = u'.id := User.eq_of_masked (fun _ => rfl) h.masked
  have hitems : db'.items = db.items := by rw [h.alike.rest]
  have hrequests : db'.requests = db.requests := by rw [h.alike.rest]
  refine .of_runs (a := _) (b := _) rfl rfl ⟨?_, h⟩
  rw [hid, hitems, hrequests]

end UserRepository

/-! ### The services -/

namespace UserService

theorem coupled_getUserOr404 {userId : UUID} (h : db.Alike db') :
    Coupled StoredAlike (getUserOr404 userId) (getUserOr404 userId) ctx db db' := by
  have hsame := h.get? userId
  cases hu : db.users.get? userId with
  | none =>
    have hfails {db : Db} (hu : db.users.get? userId = none) :
        (getUserOr404 userId).Fails ctx db (notFoundException "User not found.") := by
      simp [getUserOr404, hu]
    exact .of_fails (hfails hu) (hfails (h.get?_eq_none.mp hu))
  | some u =>
    rw [hu] at hsame
    obtain ⟨u', hu', hmasked⟩ := Option.map_eq_some_iff.mp hsame.symm
    refine .of_runs (runs_getUserOr404.mpr ⟨hu, rfl⟩) (runs_getUserOr404.mpr ⟨hu', rfl⟩) ⟨hmasked.symm, ?_, ?_, h⟩
    · rwa [show u.id = userId from Table.get?_key hu]
    · rwa [show u'.id = userId from Table.get?_key hu']

variable {f : User → User}

theorem coupled_edited (h : StoredAlike u u' db db') (hf : User.Edit f) :
    Coupled (fun row row' t t' => row = row' ∧ t.Alike t')
      (do let updated ← UserRepository.update (f u); return userResultFrom updated)
      (do let updated ← UserRepository.update (f u'); return userResultFrom updated) ctx db db' := by
  refine (UserRepository.coupled_update h hf).bind fun row row' t t' hrow => .pure ⟨?_, hrow.2⟩
  exact User.eq_of_masked (f := userResultFrom) (fun _ => rfl) hrow.1

theorem unseeing_insertUser (name email : String) (role : UserRole) (password : String) :
    Unseeing (insertUser name email role password) := by
  refine Unseeing.of_user (fun _ _ _ => UserRepository.coupled_getByEmail) ?_ fun _ => ?_
  · rintro (_ | existing) <;> rfl
  refine (Blind.raiseIf _ _).bind fun _ => Blind.bind (Blind.ask.bind fun _ => .orRaise _ _) fun _ => ?_
  exact (unseeing_uuid4 0).bind fun _ => UserRepository.unseeing_create _

theorem unseeing_createUser (name email : String) (role : UserRole) : Unseeing (createUser name email role) :=
  (unseeing_insertUser _ _ _ _).bind fun _ => .pure _

theorem unseeing_changeRole (userId : UUID) (role : UserRole) : Unseeing (changeRole userId role) := by
  intro ctx db db' h
  refine (coupled_getUserOr404 h).bind fun user user' t t' hstored => ?_
  exact coupled_edited (f := fun u => { u with role := role }) hstored (by constructor <;> intro <;> rfl)

theorem unseeing_activate (userId : UUID) : Unseeing (activate userId) := by
  intro ctx db db' h
  refine (coupled_getUserOr404 h).bind fun user user' t t' hstored => ?_
  exact coupled_edited (f := fun u => { u with isActive := true }) hstored (by constructor <;> intro <;> rfl)

theorem unseeing_deactivate (userId : UUID) : Unseeing (deactivate userId) := by
  intro ctx db db' h
  refine (coupled_getUserOr404 h).bind fun user user' t t' hstored => ?_
  refine (UserRepository.coupled_hasActiveDevicesOrRequests hstored).bind fun holds holds' s s' hholds => ?_
  obtain ⟨rfl, hstored⟩ := hholds
  refine (Coupled.raiseIf (Q := fun _ _ t t' => StoredAlike user user' t t') hstored).bind fun _ _ r r' hstored => ?_
  exact coupled_edited (f := fun u => { u with isActive := false }) hstored (by constructor <;> intro <;> rfl)

end UserService

/-! ### Tokens -/

theorem unseeing_createToken (k : Nat) (subject : String) (type : TokenType) (delta : Int) (role email : String) :
    Unseeing (createToken k subject type delta role email) :=
  Blind.ask.bind fun _ => (unseeing_utcNow k).bind fun _ => .pure _

theorem AuthService.unseeing_tokensFor (k : Nat) (user : User) : Unseeing (tokensFor k user) := by
  refine Blind.bind (Blind.ask.bind fun _ => unseeing_createToken _ _ _ _ _ _) fun _ => ?_
  exact Blind.bind (Blind.ask.bind fun _ => unseeing_createToken _ _ _ _ _ _) fun _ => .pure _

theorem AuthService.unseeing_register (name email : String) (role : UserRole) (password : String) :
    Unseeing (register name email role password) :=
  (UserService.unseeing_insertUser _ _ _ _).bind fun user => unseeing_tokensFor 0 user

end AssetPilot
