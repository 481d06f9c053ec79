import AssetPilot.Operations

/-!
# What can happen to a user

A call writes the role or the activity of a stored user, or inserts a new one. The categories and the handovers
are written by nothing.
-/

namespace AssetPilot

open Relational Txn
open SQLAlchemyRepository (flushed born)

variable {ctx : Ctx} {db db' : Db} {e : Event} {userId : UUID}

/-- The call writes the user `u` as `u'`, apart from `updated_at`. -/
inductive Op.Administers : Op → User → User → Prop
  | changeRole {u role} : Administers (.changeRole u.id role) u { u with role := role }
  | deactivate {u} : Administers (.deactivate u.id) u { u with isActive := false }
  | activate {u} : Administers (.activate u.id) u { u with isActive := true }

/-- The call inserts a user with this name, email, role and password. -/
inductive Op.Enrols : Op → String → String → UserRole → String → Prop
  | createUser {name email role} :
    Enrols (.createUser name email role) name email role UserService._DEFAULT_PASSWORD
  | register {name email role password} : Enrols (.register name email role password) name email role password

/-- What an event does to the users. -/
inductive Event.UsersStep (db : Db) (e : Event) (db' : Db) : Prop
  | same (h : db'.users = db.users)
  | rewrite {ctx : Ctx} {op : Op} {u u' : User} {t : Datetime} (he : e = .service ctx op)
      (hu : db.users.get? u.id = some u) (h : op.Administers u u')
      (hset : db'.users = db.users.set { u' with updatedAt := t })
  | create {ctx : Ctx} {op : Op} {name email password hash : String} {role : UserRole} {t : Datetime}
      (he : e = .service ctx op) (h : op.Enrols name email role password)
      (hhash : ctx.hashpw password = some hash) (hfresh : db.users.get? (ctx.uuid4 0) = none)
      (hemail : ∀ u ∈ db.users.rows, u.email ≠ email)
      (hinsert : db'.users = db.users.insert
        { UserService.newUser (ctx.uuid4 0) (varchar name) (varchar email) (varchar hash) role with
          createdAt := t, updatedAt := t })

/-- The tables that nothing writes. -/
def UntouchedKept (db db' : Db) : Prop :=
  db'.categories = db.categories ∧ db'.handoverRequests = db.handoverRequests

theorem Op.Administers.id_eq {op : Op} {u u' : User} (h : op.Administers u u') : u'.id = u.id := by
  cases h <;> rfl

theorem Op.Administers.texts {op : Op} {u u' : User} (h : op.Administers u u') :
    u'.name = u.name ∧ u'.email = u.email ∧ u'.passwordHash = u.passwordHash := by
  cases h <;> exact ⟨rfl, rfl, rfl⟩

theorem Event.UsersStep.of_set {op : Op} {u u' x : User} (hu : db.users.get? userId = some u)
    (hu' : u' = flushed ctx db x) (h : u.id = userId → op.Administers u x)
    (hset : db'.users = db.users.set u') : (Event.service ctx op).UsersStep db db' := by
  obtain rfl : u.id = userId := Table.get?_key hu
  have hadministers : op.Administers u x := h rfl
  rw [hu', User.flushed_of_texts (hadministers.id_eq ▸ hu) hadministers.texts] at hset
  exact .rewrite rfl hu hadministers hset

theorem Event.UsersStep.of_insertUser {op : Op} {name email password : String} {role : UserRole} {user : User}
    (h : op.Enrols name email role password)
    (hruns : (UserService.insertUser name email role password).Runs ctx db user db') :
    (Event.service ctx op).UsersStep db db' := by
  obtain ⟨hfind, hash, hhash, hfresh, -, hborn, rfl⟩ := UserService.runs_insertUser.mp hruns
  refine .create (t := ctx.txTime) rfl h hhash hfresh (by simpa using hfind) ?_
  rw [hborn, SQLAlchemyRepository.born_user]
  rfl

theorem Event.UsersStep.stays {u : User} (h : e.UsersStep db db') (hu : db.users.get? userId = some u) :
    db'.users.get? userId = some u ∨ ∃ ctx op u' t, e = .service ctx op ∧ op.Administers u u' ∧
      db'.users.get? userId = some { u' with updatedAt := t } := by
  cases h with
  | same hsame => exact .inl (hsame ▸ hu)
  | @rewrite ctx op w w' t he hw hwrites hset =>
    have hid : { w' with updatedAt := t }.id = w.id := hwrites.id_eq
    rw [hset]
    by_cases hk : userId = w.id
    · subst hk
      obtain rfl := Option.some.inj (hw.symm.trans hu)
      exact .inr ⟨ctx, op, w', t, he, hwrites, Table.get?_set_self hw hid⟩
    · exact .inl ((Table.get?_set_of_ne (hid.symm ▸ hk)).trans hu)
  | @create ctx op name email password hash role t he henrols hhash hfresh hemail hinsert =>
    have hne : userId ≠ ctx.uuid4 0 := by
      rintro rfl
      exact absurd (hfresh.symm.trans hu) (Option.some_ne_none u).symm
    rw [hinsert]
    exact .inl ((Table.get?_insert hfresh userId).trans ((if_neg hne).trans hu))

/-! ### The operations -/

theorem SupportService.resolve_users {ticketId actorId : UUID} {resolution : SupportResolution}
    {note : Option String} {newId : Option UUID} {next : Option DeviceStatus} {row : SupportRequest}
    (h : (resolve ticketId resolution note newId next actorId).Runs ctx db row db') :
    e.UsersStep db db' ∧ UntouchedKept db db' := by
  obtain ⟨t, -, -, i, -, _, db₁, happly, t', -, -, -, -, rfl⟩ := runs_resolve.mp h
  cases resolution with
  | remoteResolved =>
    simp only [applyResolution, runs_pure] at happly
    obtain ⟨-, rfl⟩ := happly
    exact ⟨.same rfl, rfl, rfl⟩
  | repairedInPlace =>
    obtain ⟨-, i', -, -, l, -, -, rfl⟩ := runs_repairInPlace.mp happly
    exact ⟨.same rfl, rfl, rfl⟩
  | swapped =>
    simp only [applyResolution, runs_bind, runs_orRaise] at happly
    obtain ⟨n, _, ⟨rfl, rfl⟩, s, _, ⟨rfl, rfl⟩, happly⟩ := happly
    obtain ⟨-, p, -, m, -, -, -, r, -, r', -, -, db₂, rfl, o', -, -, db₃, rfl, n', -, -, l, -, -, l', -, -, rfl⟩ :=
      runs_swap.mp happly
    exact ⟨.same rfl, rfl, rfl⟩
  | markedLost =>
    obtain ⟨p, -, r, -, i', -, -, r', -, -, l, -, -, rfl⟩ := runs_markLost.mp happly
    exact ⟨.same rfl, rfl, rfl⟩

theorem Op.users {op : Op} (h : op.run.Runs ctx db () db') :
    (Event.service ctx op).UsersStep db db' ∧ UntouchedKept db db' := by
  cases op <;> obtain ⟨row, h⟩ := runs_discard.mp h
  case createItem =>
    obtain ⟨-, -, -, i, -, -, -, -, rfl⟩ := InventoryService.runs_createItem.mp h
    exact ⟨.same rfl, rfl, rfl⟩
  case editItem =>
    obtain ⟨i, -, -, i', -, -, ⟨_, hlog⟩, -⟩ := InventoryService.runs_editItem.mp h
    rcases InventoryService.runs_logChanges.mp hlog with ⟨-, rfl⟩ | ⟨-, -, rfl⟩ <;> exact ⟨.same rfl, rfl, rfl⟩
  case changeStatus =>
    obtain ⟨i, -, i', -, -, l, rfl, -, -, rfl⟩ := InventoryService.runs_changeStatus.mp h
    exact ⟨.same rfl, rfl, rfl⟩
  case updateBookingRange =>
    obtain ⟨r, d, -, -, -, -, -, -, rfl⟩ := AssignmentService.runs_updateBookingRange.mp h
    exact ⟨.same rfl, rfl, rfl⟩
  case assign =>
    obtain ⟨r, -, -, i, -, -, -, -, r', -, -, i', -, -, -, -, rfl⟩ := AssignmentService.runs_assign.mp h
    exact ⟨.same rfl, rfl, rfl⟩
  case directAssign =>
    obtain ⟨i, -, -, -, -, u, -, -, r', -, -, -, i', -, -, -, -, rfl⟩ := AssignmentService.runs_directAssign.mp h
    exact ⟨.same rfl, rfl, rfl⟩
  case reject =>
    obtain ⟨r, -, -, -, -, rfl⟩ := RequestService.runs_reject.mp h
    exact ⟨.same rfl, rfl, rfl⟩
  case cancel =>
    obtain ⟨r, -, -, -, -, rfl⟩ := RequestService.runs_cancel.mp h
    exact ⟨.same rfl, rfl, rfl⟩
  case escalateToManager =>
    obtain ⟨r, -, -, -, -, rfl⟩ := RequestService.runs_escalateToManager.mp h
    exact ⟨.same rfl, rfl, rfl⟩
  case ship =>
    obtain ⟨r, -, -, i, -, -, r', -, -, i', -, -, l, rfl, -, -, rfl⟩ := ShippingService.runs_ship.mp h
    exact ⟨.same rfl, rfl, rfl⟩
  case confirmDelivery =>
    obtain ⟨r, -, i, -, -, r', -, -, i', -, -, l, rfl, -, -, rfl⟩ := ShippingService.runs_confirmDelivery.mp h
    exact ⟨.same rfl, rfl, rfl⟩
  case completeReturn =>
    obtain ⟨r, -, i, -, -, r', -, -, i', -, -, l, -, -, l', -, -, ⟨_, hclose⟩, -⟩ :=
      ShippingService.runs_completeReturn.mp h
    obtain ⟨ts, -, hclosed⟩ := ShippingService.runs_autoCloseOpenSupport hclose
    rw [hclosed.frame]
    exact ⟨.same rfl, rfl, rfl⟩
  case start =>
    obtain ⟨t, -, -, t', -, -, ⟨_, hrepair⟩, -⟩ := SupportService.runs_start.mp h
    rcases SupportService.runs_startRepair.mp hrepair with ⟨-, rfl⟩ | ⟨-, i, -, i', -, -, l, -, -, rfl⟩ <;>
      exact ⟨.same rfl, rfl, rfl⟩
  case resolve => exact SupportService.resolve_users h
  case approveExtension =>
    obtain ⟨x, -, -, -, r, -, r', -, -, x', -, -, d, -, l, -, -, -, rfl⟩ := ExtensionService.runs_approve.mp h
    exact ⟨.same rfl, rfl, rfl⟩
  case rejectExtension =>
    obtain ⟨x, -, -, r, -, x', -, -, d, -, l, -, -, -, rfl⟩ := ExtensionService.runs_reject.mp h
    exact ⟨.same rfl, rfl, rfl⟩
  case createUser =>
    obtain ⟨user, hinsert, -⟩ := UserService.runs_createUser.mp h
    refine ⟨.of_insertUser .createUser hinsert, ?_⟩
    obtain ⟨-, _, -, -, -, -, rfl⟩ := UserService.runs_insertUser.mp hinsert
    exact ⟨rfl, rfl⟩
  case changeRole =>
    obtain ⟨u, hu, u', hu', -, -, rfl⟩ := UserService.runs_changeRole.mp h
    exact ⟨.of_set hu hu' (fun hid => hid ▸ .changeRole) rfl, rfl, rfl⟩
  case deactivate =>
    obtain ⟨u, hu, -, u', hu', -, -, rfl⟩ := UserService.runs_deactivate.mp h
    exact ⟨.of_set hu hu' (fun hid => hid ▸ .deactivate) rfl, rfl, rfl⟩
  case activate =>
    obtain ⟨u, hu, u', hu', -, -, rfl⟩ := UserService.runs_activate.mp h
    exact ⟨.of_set hu hu' (fun hid => hid ▸ .activate) rfl, rfl, rfl⟩
  case register =>
    obtain ⟨user, hinsert⟩ := AuthService.runs_register h
    refine ⟨.of_insertUser .register hinsert, ?_⟩
    obtain ⟨-, _, -, -, -, -, rfl⟩ := UserService.runs_insertUser.mp hinsert
    exact ⟨rfl, rfl⟩

theorem PortalStep.users {step : PortalStep} (h : step.run.Runs ctx db () db') :
    db'.users = db.users ∧ UntouchedKept db db' := by
  cases step with
  | fileRequest r =>
    obtain ⟨-, r', -, -, -, rfl⟩ := runs_fileRequest.mp h
    exact ⟨rfl, rfl, rfl⟩
  | submitRequest q s =>
    obtain ⟨r, -, -, r', -, -, rfl⟩ := runs_submitRequest.mp h
    exact ⟨rfl, rfl, rfl⟩
  | decideRequest q approved note now =>
    obtain ⟨r, -, -, r', -, -, rfl⟩ := runs_decideRequest.mp h
    exact ⟨rfl, rfl, rfl⟩
  | fileTicket t =>
    obtain ⟨-, t', -, -, -, rfl⟩ := runs_fileTicket.mp h
    exact ⟨rfl, rfl, rfl⟩
  | fileExtension x =>
    obtain ⟨-, x', -, -, -, rfl⟩ := runs_fileExtension.mp h
    exact ⟨rfl, rfl, rfl⟩
  | decideExtension q approved note now =>
    obtain ⟨x, -, -, x', -, -, rfl⟩ := runs_decideExtension.mp h
    exact ⟨rfl, rfl, rfl⟩
  | initiateReturn q url now =>
    obtain ⟨r, -, i, -, -, r', -, -, i', -, -, rfl⟩ := runs_initiateReturn.mp h
    exact ⟨rfl, rfl, rfl⟩

/-- **What a committed event does to the users**, and what it leaves. -/
theorem Event.Commits.users (h : e.Commits db db') : e.UsersStep db db' ∧ UntouchedKept db db' := by
  cases h with
  | service h => exact Op.users h
  | portal h => exact ⟨.same (PortalStep.users h).1, (PortalStep.users h).2⟩

end AssetPilot
