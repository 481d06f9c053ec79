import AssetPilot.Concurrency.UnitOfWork
import AssetPilot.Invariants.Coherence
import AssetPilot.Lib.Interleaving
import AssetPilot.Repositories.Outcomes
import AssetPilot.Services.AuthService

/-!
# Nothing is created twice

`create_user`, `register` and `create_item` look a unique text up before they insert a row with it. Any number of
them may find the email or the serial number free; the unique index lets the first through that commits. The
others have read too early to answer with a conflict, and end in the `IntegrityError` that nobody translates. So does
one that looks up a text of more than 255 characters with blanks at its end, if what the column makes of it is there.
-/

namespace AssetPilot

open Relational Txn Interleaving
open SQLAlchemyRepository (born)
open DeviceLogService (append)
open InventoryService (newItem createdLog)
open UserService (newUser insertUser)

variable {ctx : Ctx} {db db' s s' : Db} {e : Failure}

/-! ### The two steps -/

/-- A call that inserts a row with a unique text. -/
inductive Creation
  | createUser (name email : String) (role : UserRole)
  | register (name email : String) (role : UserRole) (password : String)
  | createItem (name serialNo : String) (categoryId : UUID) (ownerType : OwnerType) (clientName : Option String)
      (purchaseDate : Option Date) (actorId : UUID)

/-- What it has in its session when it flushes; a registration makes the tokens of the user after that. -/
inductive Insertion
  | user (user : User)
  | account (user : User)
  | item (item : Item) (actorId : UUID)

def Insertion.commit : Insertion → Service Unit
  | .user newUser => discard (UserRepository.create newUser)
  | .account newUser => do
    let created ← UserRepository.create newUser
    discard (AuthService.tokensFor 0 created)
  | .item newItem actorId => do
    let created ← ItemRepository.create newItem
    let _ ← append (createdLog created.id actorId)
    return ()

/-- `insertUser` up to its flush. -/
def UserService.stageUser (name email : String) (role : UserRole) (password : String) : Service User := do
  let existing ← UserRepository.getByEmail email
  raiseIf (existing ≠ none) (conflictException s!"A user with email '{email}' already exists.")
  let passwordHash ← hashPassword password
  let id ← uuid4 0
  return newUser id name email passwordHash role

/-- `create_item` up to its flush. -/
def InventoryService.stageItem (name serialNo : String) (categoryId : UUID) (ownerType : OwnerType)
    (clientName : Option String) (purchaseDate : Option Date) : Service Item := do
  let category ← ItemCategoryRepository.getById categoryId
  raiseIf (category = none) (notFoundException "Item category not found.")
  let existing ← ItemRepository.getBySerialNo serialNo
  raiseIf (existing ≠ none)
    (conflictException s!"An item with serial number '{serialNo}' already exists.")
  let id ← uuid4 0
  let qrCodeToken ← uuid4 1
  return newItem id qrCodeToken name serialNo categoryId ownerType clientName purchaseDate

def Creation.stage : Creation → Service Insertion
  | .createUser name email role => do
    let user ← UserService.stageUser name email role UserService._DEFAULT_PASSWORD
    return .user user
  | .register name email role password => do
    let user ← UserService.stageUser name email role password
    return .account user
  | .createItem name serialNo categoryId ownerType clientName purchaseDate actorId => do
    let item ← InventoryService.stageItem name serialNo categoryId ownerType clientName purchaseDate
    return .item item actorId

def Creation.op : Creation → Op
  | .createUser name email role => .createUser name email role
  | .register name email role password => .register name email role password
  | .createItem name serialNo categoryId ownerType clientName purchaseDate actorId =>
    .createItem name serialNo categoryId ownerType clientName purchaseDate actorId

/-- **Flushed right after its read, a creation is the service operation.** -/
theorem Creation.run_eq (c : Creation) : c.op.run = c.stage >>= Insertion.commit := by
  funext ctx db
  cases c with
  | createUser | register =>
    simp only [stage, op, Op.run, UserService.createUser, AuthService.register_eq, insertUser, UserService.stageUser,
      Insertion.commit, discard, Txn.bind_assoc, Txn.pure_bind]
  | createItem =>
    simp only [stage, op, Op.run, InventoryService.createItem, InventoryService.stageItem, Insertion.commit,
      discard, Txn.bind_assoc, Txn.pure_bind]

/-! ### The unique texts -/

inductive UniqueKey
  | email (email : String)
  | serialNo (serialNo : String)
  deriving DecidableEq

def Db.HasKey (db : Db) : UniqueKey → Prop
  | .email text => ∃ u ∈ db.users.rows, u.email = text
  | .serialNo text => ∃ i ∈ db.items.rows, i.serialNo = text

/-- What the column makes of the text. -/
def UniqueKey.stored : UniqueKey → UniqueKey
  | .email text => .email (varchar text)
  | .serialNo text => .serialNo (varchar text)

/-- The text that the call looks up. -/
def Creation.asked : Creation → UniqueKey
  | .createUser _ email _ | .register _ email _ _ => .email email
  | .createItem _ serialNo _ _ _ _ _ => .serialNo serialNo

/-- The text that its row has. -/
def Creation.key (c : Creation) : UniqueKey := c.asked.stored

/-- The answer to a text that is taken. -/
def Creation.taken : Creation → Failure
  | .createUser _ email _ | .register _ email _ _ =>
    conflictException s!"A user with email '{email}' already exists."
  | .createItem _ serialNo _ _ _ _ _ =>
    conflictException s!"An item with serial number '{serialNo}' already exists."

def Creation.actor : Creation → Option UUID
  | .createItem _ _ _ _ _ _ actorId => some actorId
  | .createUser .. | .register .. => none

/-- What a call has staged, and the category that it has seen. -/
inductive Creation.Staged (ctx : Ctx) (db : Db) : Creation → Insertion → Prop
  | createUser {name email role} (hash : String) :
    Staged ctx db (.createUser name email role) (.user (newUser (ctx.uuid4 0) name email hash role))
  | register {name email role password} (hash : String) :
    Staged ctx db (.register name email role password) (.account (newUser (ctx.uuid4 0) name email hash role))
  | createItem {name serialNo categoryId ownerType clientName purchaseDate actorId}
    (hcategory : db.categories.References (some categoryId)) :
    Staged ctx db (.createItem name serialNo categoryId ownerType clientName purchaseDate actorId)
      (.item (newItem (ctx.uuid4 0) (ctx.uuid4 1) name serialNo categoryId ownerType clientName purchaseDate) actorId)

/-- What a call relies on until it commits: its identifiers are new, and its administrator and the categories are
there. -/
structure Creation.Relies (ctx : Ctx) (db : Db) (c : Creation) (s : Db) : Prop where
  user : s.users.get? (ctx.uuid4 0) = none
  item : s.items.get? (ctx.uuid4 0) = none
  token : ∀ i ∈ s.items.rows, i.qrCodeToken ≠ ctx.uuid4 1
  actor : s.users.References c.actor
  categories : s.categories = db.categories

/-! ### Reading -/

theorem runs_stageUser {name email password : String} {role : UserRole} {row : User} :
    (UserService.stageUser name email role password).Runs ctx s row s' ↔
      (∀ u ∈ s.users.rows, u.email ≠ email) ∧ ∃ hash, ctx.hashpw password = some hash ∧
        row = newUser (ctx.uuid4 0) name email hash role ∧ s' = s := by
  simp only [UserService.stageUser, runs_bind, UserRepository.runs_getByEmail, runs_raiseIf, runs_hashPassword,
    runs_uuid4, runs_pure]
  grind

theorem runs_stageItem {name serialNo : String} {categoryId : UUID} {ownerType : OwnerType}
    {clientName : Option String} {date : Option Date} {row : Item} :
    (InventoryService.stageItem name serialNo categoryId ownerType clientName date).Runs ctx s row s' ↔
      s.categories.get? categoryId ≠ none ∧ (∀ i ∈ s.items.rows, i.serialNo ≠ serialNo) ∧
        row = newItem (ctx.uuid4 0) (ctx.uuid4 1) name serialNo categoryId ownerType clientName date ∧ s' = s := by
  simp only [InventoryService.stageItem, runs_bind, ItemCategoryRepository.runs_getById,
    ItemRepository.runs_getBySerialNo, runs_raiseIf, runs_uuid4, runs_pure]
  grind

theorem Creation.staged_of_read {c : Creation} {u : Insertion} (hcategories : s.categories = db.categories)
    (h : c.stage.Runs ctx s u s') : c.Staged ctx db u ∧ ¬ s.HasKey c.asked ∧ s' = s := by
  cases c with
  | createUser | register =>
    simp only [stage, runs_bind, runs_stageUser, runs_pure] at h
    obtain ⟨row, _, ⟨hfree, hash, -, rfl, rfl⟩, rfl, rfl⟩ := h
    refine ⟨by constructor, ?_, rfl⟩
    rintro ⟨u, hu, hemail⟩
    exact hfree u hu hemail
  | createItem =>
    simp only [stage, runs_bind, runs_stageItem, runs_pure] at h
    obtain ⟨row, _, ⟨hcategory, hfree, rfl, rfl⟩, rfl, rfl⟩ := h
    refine ⟨.createItem fun k hk => ?_, ?_, rfl⟩
    · obtain rfl := Option.some.inj hk
      exact hcategories ▸ hcategory
    · rintro ⟨i, hi, hserialNo⟩
      exact hfree i hi hserialNo

/-- A read step that answers with the conflict has found the text taken, and none ends in an `IntegrityError`. -/
theorem Creation.error_of_read {c : Creation} (h : c.stage.Fails ctx s e) :
    (e = c.taken → s.HasKey c.asked) ∧ e ≠ .integrityError := by
  have key : wp (fun e => (e = c.taken → s.HasKey c.asked) ∧ e ≠ .integrityError) (fun _ _ => True) c.stage ctx s := by
    cases c with
    | createUser | register =>
      simp [stage, UserService.stageUser, hashPassword, asked, Db.HasKey, taken, conflictException]
    | createItem =>
      simp [stage, InventoryService.stageItem, asked, Db.HasKey, taken, conflictException, notFoundException]
      exact fun _ i hi hserialNo => ⟨i, hi, hserialNo⟩
  exact (wp_iff.mp key).1 e h

/-! ### Committing -/

theorem failsOnly_create_user {u : User} :
    FailsOnly (fun e => e = .dataError ∨ e = .integrityError) (UserRepository.create u) := by
  intro ctx s e h
  rcases SQLAlchemyRepository.fails_create.mp h with ⟨-, rfl⟩ | ⟨-, hcheck⟩
  · exact .inr rfl
  · exact (constraintCheck_error.mp hcheck).imp (·.2) (·.2.2)

theorem failsOnly_create_item {i : Item} :
    FailsOnly (fun e => e = .dataError ∨ e = .integrityError) (ItemRepository.create i) := by
  intro ctx s e h
  rcases SQLAlchemyRepository.fails_create.mp h with ⟨-, rfl⟩ | ⟨-, hcheck⟩
  · exact .inr rfl
  · exact (constraintCheck_error.mp hcheck).imp (·.2) (·.2.2)

theorem Insertion.failsOnly_commit {u : Insertion} :
    FailsOnly (fun e => e = .dataError ∨ e = .integrityError) u.commit := by
  cases u with
  | user => exact .bind failsOnly_create_user fun _ => failsOnly_pure _
  | account =>
    exact .bind failsOnly_create_user fun _ => .bind (fun _ _ _ h => by cases h) fun _ => failsOnly_pure _
  | item =>
    exact .bind failsOnly_create_item fun _ =>
      .bind (fun _ _ _ h => .inr (DeviceLogService.fails_append.mp h).2) fun _ => failsOnly_pure _

theorem hasKey_addUser {row : User} (hfresh : s.users.get? row.id = none) (k : UniqueKey) :
    (s.addUser row).HasKey k ↔ s.HasKey k ∨ k = .email row.email := by
  cases k with
  | email text =>
    simp [Db.HasKey, Db.addUser, ← Table.mem_def, Table.mem_insert hfresh, or_and_right, exists_or, eq_comm]
  | serialNo text => simp [Db.HasKey, Db.addUser]

theorem hasKey_addItem {row : Item} (hfresh : s.items.get? row.id = none) (l : DeviceLog) (k : UniqueKey) :
    ((s.addItem row).appendLog l).HasKey k ↔ s.HasKey k ∨ k = .serialNo row.serialNo := by
  cases k with
  | email text => simp [Db.HasKey, Db.addItem, Db.appendLog]
  | serialNo text =>
    simp [Db.HasKey, Db.addItem, Db.appendLog, ← Table.mem_def, Table.mem_insert hfresh, or_and_right, exists_or,
      eq_comm]

section
variable {name email hash : String} {role : UserRole} {name serialNo : String} {categoryId actorId : UUID}
  {ownerType : OwnerType} {clientName : Option String} {date : Option Date}

theorem runs_commit_user {u : User} :
    (Insertion.user u).commit.Runs ctx s () s' ↔ ∃ row, (UserRepository.create u).Runs ctx s row s' := by
  simp [Insertion.commit, discard]

theorem runs_commit_account {u : User} :
    (Insertion.account u).commit.Runs ctx s () s' ↔ ∃ row, (UserRepository.create u).Runs ctx s row s' := by
  simp [Insertion.commit, discard]

theorem takes_email
    (h : ∃ row, (UserRepository.create (newUser (ctx.uuid4 0) name email hash role)).Runs ctx s row s') :
    ¬ s.HasKey (.email (varchar email)) ∧ (∀ k, s'.HasKey k ↔ s.HasKey k ∨ k = .email (varchar email)) ∧
      ∀ (ctx' : Ctx) (db : Db) (c' : Creation), ctx'.uuid4 0 ≠ ctx.uuid4 0 → c'.Relies ctx' db s →
        c'.Relies ctx' db s' := by
  obtain ⟨_, hrow⟩ := h
  obtain ⟨hfresh, hok, rfl, rfl⟩ := UserRepository.runs_create.mp hrow
  have hunique := (constraintCheck_ok.mp hok).2.2.1
  have hfree : s.users.get? (born ctx (newUser (ctx.uuid4 0) name email hash role)).id = none := hfresh
  rw [SQLAlchemyRepository.born_email] at hunique
  refine ⟨fun ⟨x, hx, hemail⟩ => hunique x hx (fun hid => ?_) hemail, fun k => ?_, fun _ _ _ hne hrelies => ?_⟩
  · exact Table.get?_eq_none_iff.mp hfree x hx hid
  · rw [hasKey_addUser hfree, SQLAlchemyRepository.born_email]
    rfl
  · obtain ⟨huser, hitem, htoken, hactor, hcategories⟩ := hrelies
    refine ⟨?_, hitem, htoken, Table.references_insert hfree hactor, hcategories⟩
    exact (Table.get?_insert hfree _).trans ((if_neg hne).trans huser)

theorem takes_serialNo {s₁ : Db} {row : Item} {l : DeviceLog}
    (h : (ItemRepository.create (newItem (ctx.uuid4 0) (ctx.uuid4 1) name serialNo categoryId ownerType clientName
      date)).Runs ctx s row s₁) :
    ¬ s.HasKey (.serialNo (varchar serialNo)) ∧
      (∀ k, (s₁.appendLog l).HasKey k ↔ s.HasKey k ∨ k = .serialNo (varchar serialNo)) ∧
      ∀ (ctx' : Ctx) (c' : Creation), ctx'.uuid4 0 ≠ ctx.uuid4 0 → ctx'.uuid4 1 ≠ ctx.uuid4 1 →
        c'.Relies ctx' db s → c'.Relies ctx' db (s₁.appendLog l) := by
  obtain ⟨hfresh, hok, rfl, rfl⟩ := ItemRepository.runs_create.mp h
  have hunique := (constraintCheck_ok.mp hok).2.1
  have hfree : s.items.get? (born ctx (newItem (ctx.uuid4 0) (ctx.uuid4 1) name serialNo categoryId ownerType
    clientName date)).id = none := hfresh
  rw [SQLAlchemyRepository.born_serialNo] at hunique
  refine ⟨fun ⟨x, hx, hserialNo⟩ => (hunique x hx fun hid => ?_).1 hserialNo, fun k => ?_,
    fun ctx' c' hne hqr hrelies => ?_⟩
  · exact Table.get?_eq_none_iff.mp hfree x hx hid
  · rw [hasKey_addItem hfree, SQLAlchemyRepository.born_serialNo]
    rfl
  · obtain ⟨huser, hitem, htoken, hactor, hcategories⟩ := hrelies
    refine ⟨huser, ?_, Table.forall_mem_insert hfree htoken (Ne.symm hqr), hactor, hcategories⟩
    exact (Table.get?_insert hfree _).trans ((if_neg hne).trans hitem)

/-- The text was free, and is the only one that the flush takes; the others can still rely on what they did. -/
theorem Creation.commit_ok {c : Creation} {u : Insertion} (hstaged : c.Staged ctx db u)
    (h : u.commit.Runs ctx s () s') :
    ¬ s.HasKey c.key ∧ (∀ k, s'.HasKey k ↔ s.HasKey k ∨ k = c.key) ∧
      ∀ (ctx' : Ctx) (c' : Creation), ctx'.uuid4 0 ≠ ctx.uuid4 0 → ctx'.uuid4 1 ≠ ctx.uuid4 1 →
        c'.Relies ctx' db s → c'.Relies ctx' db s' := by
  cases hstaged with
  | createUser hash =>
    obtain ⟨hfree, htaken, hothers⟩ := takes_email (runs_commit_user.mp h)
    exact ⟨hfree, htaken, fun ctx' c' hne _ => hothers ctx' db c' hne⟩
  | register hash =>
    obtain ⟨hfree, htaken, hothers⟩ := takes_email (runs_commit_account.mp h)
    exact ⟨hfree, htaken, fun ctx' c' hne _ => hothers ctx' db c' hne⟩
  | createItem hcategory =>
    simp only [Insertion.commit, runs_bind, DeviceLogService.runs_append, runs_pure] at h
    obtain ⟨row, _, hcreate, _, _, ⟨-, -, rfl⟩, -, rfl⟩ := h
    exact takes_serialNo hcreate

theorem integrity_of_check {fits integral : Prop} [Decidable fits] [Decidable integral]
    (h : constraintCheck fits integral = .error .integrityError) : ¬ integral := by
  rcases constraintCheck_error.mp h with ⟨-, he⟩ | ⟨-, hnot, -⟩
  · cases he
  · exact hnot

theorem fails_create_user (hfree : s.users.get? (ctx.uuid4 0) = none)
    (h : (UserRepository.create (newUser (ctx.uuid4 0) name email hash role)).Fails ctx s .integrityError) :
    s.HasKey (.email (varchar email)) := by
  rcases SQLAlchemyRepository.fails_create.mp h with ⟨hstored, -⟩ | ⟨-, hcheck⟩
  · exact absurd hfree hstored
  · have hnot := integrity_of_check hcheck
    by_contra hnone
    have hhash : (born ctx (newUser (ctx.uuid4 0) name email hash role)).passwordHash ≠ none := nofun
    refine hnot ⟨hhash, fun x hx _ hemail => hnone ⟨x, hx, ?_⟩, Table.references_none⟩
    exact hemail.trans SQLAlchemyRepository.born_email

/-- With new identifiers, only a text whose stored form is taken violates a key. -/
theorem Creation.commit_error {c : Creation} {u : Insertion} (hrelies : c.Relies ctx db s)
    (hstaged : c.Staged ctx db u) (h : u.commit.Fails ctx s .integrityError) : s.HasKey c.key := by
  obtain ⟨huser, hitem, htoken, hactor, hcategories⟩ := hrelies
  cases hstaged with
  | createUser hash =>
    simp only [Insertion.commit, discard, fails_bind, fails_pure] at h
    rcases h with h | ⟨_, _, -, h⟩
    · exact fails_create_user huser h
    · exact h.elim
  | register hash =>
    simp only [Insertion.commit, discard, fails_bind, fails_pure] at h
    rcases h with h | ⟨_, _, -, (h | ⟨_, _, _, h⟩)⟩
    · exact fails_create_user huser h
    · cases h
    · exact h.elim
  | createItem hcategory =>
    simp only [Insertion.commit, fails_bind, ItemRepository.runs_create, DeviceLogService.fails_append, fails_pure] at h
    rcases h with h | ⟨row, s₁, ⟨hfresh, hok, rfl, rfl⟩, (⟨hlog, -⟩ | ⟨_, _, _, h⟩)⟩
    · rcases SQLAlchemyRepository.fails_create.mp h with ⟨hstored, -⟩ | ⟨-, hcheck⟩
      · exact absurd hitem hstored
      · have hnot := integrity_of_check hcheck
        by_contra hnone
        refine hnot ⟨fun x hx _ => ⟨fun hserialNo => hnone ⟨x, hx, ?_⟩, htoken x hx⟩, ?_, Table.references_none⟩
        · exact hserialNo.trans SQLAlchemyRepository.born_serialNo
        · exact hcategories ▸ hcategory
    · exact absurd ⟨Table.references_insert_self hfresh, hactor, Table.references_none, Table.references_none,
        Table.references_none, Table.references_none⟩ hlog
    · exact h.elim

end

/-! ### Calls at the same time -/

variable {ι : Type}

/-- The calls, each in its own session. -/
def creations (calls : ι → Creation) (ctxs : ι → Ctx) : Interleaving.Calls ι Db Insertion Failure Unit where
  read i db := ((calls i).stage (ctxs i) db).map Prod.fst
  commit i staged db := staged.commit (ctxs i) db

/-- Each call starts with what it relies on, and no two draw the same identifier. -/
structure Creations (calls : ι → Creation) (ctxs : ι → Ctx) (db : Db) : Prop where
  relies : ∀ i, (calls i).Relies (ctxs i) db db
  ids : ∀ i j, j ≠ i → (ctxs j).uuid4 0 ≠ (ctxs i).uuid4 0
  tokens : ∀ i j, j ≠ i → (ctxs j).uuid4 1 ≠ (ctxs i).uuid4 1

variable {calls : ι → Creation} {ctxs : ι → Ctx}

/-- A text is claimed by the call that reads it free; the `IntegrityError` is the denial of the flush. -/
def Creations.claims (h : Creations calls ctxs db) : Claims (creations calls ctxs) UniqueKey where
  asked i := (calls i).asked
  key i := (calls i).key
  Has := Db.HasKey
  Relies i s := (calls i).Relies (ctxs i) db s
  Staged i u := (calls i).Staged (ctxs i) db u
  Denies i e := e = (calls i).taken
  Late e := e = .integrityError
  read_ok hrelies hread := by
    obtain ⟨s', hread⟩ := map_fst_ok.mp hread
    obtain ⟨hstaged, hfree, -⟩ := Creation.staged_of_read hrelies.categories hread
    exact ⟨hstaged, hfree⟩
  read_error hread := Creation.error_of_read (map_fst_error.mp hread)
  commit_ok {i s u a s'} hstaged hcommit := by
    obtain ⟨hfree, htaken, hothers⟩ := Creation.commit_ok hstaged hcommit
    exact ⟨hfree, htaken, fun j hj => hothers (ctxs j) (calls j) (h.ids i j hj) (h.tokens i j hj)⟩
  commit_error {i s u e} hrelies hstaged hcommit := by
    refine ⟨?_, fun he => Creation.commit_error hrelies hstaged (he ▸ hcommit)⟩
    rintro rfl
    rcases Insertion.failsOnly_commit _ _ _ hcommit with h | h <;> cases hcase : calls i <;>
      rw [hcase] at h <;> cases h

/-- **Nothing is created twice**, in whatever order any number of calls read and flush: a text is taken when it was
before, or as one of the calls has stored it, and one only. A call that is answered with the conflict was right, and
one that ends in an `IntegrityError` has been overtaken, or has looked up another text than the one that it would
store, which was there before. -/
theorem createdOnce [DecidableEq ι] (h : Creations calls ctxs db) (schedule : List ι) :
    let st := (creations calls ctxs).exec (.start db) schedule
    (∀ k, st.store.HasKey k ↔ db.HasKey k ∨ ∃ i, (st.phase i).succeeded ∧ (calls i).key = k) ∧
    (∀ i, (st.phase i).succeeded → ¬ db.HasKey (calls i).key ∧
      ∀ j, (st.phase j).succeeded → (calls i).key = (calls j).key → i = j) ∧
    (∀ i, st.phase i = .done (.error (calls i).taken) → st.store.HasKey (calls i).asked) ∧
    ∀ i, st.phase i = .done (.error .integrityError) →
      ((calls i).key ≠ (calls i).asked ∧ db.HasKey (calls i).key) ∨
        ¬ db.HasKey (calls i).key ∧ ∃ j, j ≠ i ∧ (st.phase j).succeeded ∧ (calls j).key = (calls i).key := by
  intro st
  have hholds := h.claims.holds_exec h.relies schedule
  exact ⟨hholds.has, fun i hi => ⟨hholds.free i hi, fun j hj hkey => hholds.unique i j hi hj hkey⟩,
    fun i hi => hholds.denied i _ hi rfl, fun i hi => hholds.overtaken hi rfl⟩

/-- Two registrations of one new address. -/
def Sample.twins : Bool → Creation
  | false => .register "T" "twin@example.com" .employee "secret"
  | true => .createUser "T" "twin@example.com" .employee

def Sample.twinCtx : Bool → Ctx
  | false => Sample.ctx
  | true => { Sample.ctx with uuid4 := fun k => 200 + k }

/-- Both find the address free; the first to flush has it, and the other is overtaken. -/
theorem createdOnce_twins :
    let st := (creations Sample.twins Sample.twinCtx).exec (.start Sample.store) [false, true, true, false]
    st.phase false = .done (.error .integrityError) ∧
    (∀ k, st.store.HasKey k ↔ Sample.store.HasKey k ∨ ∃ i, (st.phase i).succeeded ∧ (Sample.twins i).key = k) ∧
    ∃ j, j ≠ false ∧ (st.phase j).succeeded ∧ (Sample.twins j).key = (Sample.twins false).key := by
  have hstored : (Sample.twins false).key = (Sample.twins false).asked := rfl
  have h : Creations Sample.twins Sample.twinCtx Sample.store :=
    { relies := fun i => by cases i <;> exact ⟨by decide, by decide, by decide, by decide, rfl⟩
      ids := fun i j hij => by cases i <;> cases j <;> first | exact absurd rfl hij | decide
      tokens := fun i j hij => by cases i <;> cases j <;> first | exact absurd rfl hij | decide }
  obtain ⟨hhas, -, -, hlate⟩ := createdOnce h [false, true, true, false]
  have hphase : ((creations Sample.twins Sample.twinCtx).exec (.start Sample.store) [false, true, true, false]).phase
    false = .done (.error .integrityError) := rfl
  exact ⟨hphase, hhas, ((hlate false hphase).resolve_left fun hpadded => hpadded.1 hstored).2⟩

end AssetPilot
