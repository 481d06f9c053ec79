import AssetPilot.Lib.Weakest
import AssetPilot.Services.DeviceLogService

/-!
# How the repositories answer

The weakest preconditions of the repository operations, for calls that may fail with an `AppException` and
with nothing else: a flush has to satisfy the constraints of its row.
-/

namespace AssetPilot

open Relational Txn
open SQLAlchemyRepository (flushed born stored)
open DeviceLogService (AppendArgs append)

/-- The call ends with a result or with an `AppException`. -/
abbrev Answers {α : Type} (x : Service α) (ctx : Ctx) (db : Db) : Prop :=
  wp Failure.IsApp (fun _ _ => True) x ctx db

variable {ctx : Ctx} {db : Db} {E : Failure → Prop}

@[simp] theorem isApp_integrityError : ¬ Failure.integrityError.IsApp := by
  rintro ⟨_, h⟩
  cases h

@[simp] theorem isApp_dataError : ¬ Failure.dataError.IsApp := by
  rintro ⟨_, h⟩
  cases h

@[simp] theorem isApp_assertionError : ¬ Failure.assertionError.IsApp := by
  rintro ⟨_, h⟩
  cases h

@[simp] theorem isApp_valueError : ¬ Failure.valueError.IsApp := by
  rintro ⟨_, h⟩
  cases h

theorem constraintCheck_isApp {fits integral : Prop} [Decidable fits] [Decidable integral] :
    (∀ e, constraintCheck fits integral = .error e → e.IsApp) ↔ constraintCheck fits integral = .ok () := by
  unfold constraintCheck
  split_ifs <;> simp

/-- Inside a translation of `IntegrityError` only a text that does not fit is an error of the flush. -/
theorem constraintCheck_isApp_translated {m : String} {fits integral : Prop} [Decidable fits]
    [Decidable integral] : (∀ e, constraintCheck fits integral = .error e →
      (integrityErrorAsConflict m e).IsApp) ↔ fits := by
  unfold constraintCheck
  have hdata : integrityErrorAsConflict m .dataError = .dataError := rfl
  have hintegrity : (integrityErrorAsConflict m .integrityError).IsApp := ⟨_, rfl⟩
  split_ifs with hfits hintegral
  · simp [hfits]
  · simp [hintegrity, hfits]
  · simp [hdata, hfits]

theorem and_imp_iff {p q : Prop} : p ∧ (p → q) ↔ p ∧ q :=
  and_congr_right fun h => ⟨fun hq => hq h, fun hq _ => hq⟩

/-! ### Reads -/

@[simp] theorem wp_utcNow {k : Nat} {Q : Datetime → Db → Prop} :
    wp E Q (utcNow k) ctx db ↔ Q (ctx.clock k) db := Iff.rfl

@[simp] theorem wp_uuid4 {k : Nat} {Q : UUID → Db → Prop} :
    wp E Q (uuid4 k) ctx db ↔ Q (ctx.uuid4 k) db := Iff.rfl

@[simp] theorem ItemCategoryRepository.wp_getById {id : UUID} {Q : Option ItemCategory → Db → Prop} :
    wp E Q (getById id) ctx db ↔ Q (db.categories.get? id) db := Iff.rfl

@[simp] theorem UserRepository.wp_getById {id : UUID} {Q : Option User → Db → Prop} :
    wp E Q (getById id) ctx db ↔ Q (db.users.get? id) db := Iff.rfl

@[simp] theorem UserRepository.wp_getByEmail {email : String} {Q : Option User → Db → Prop} :
    wp E Q (getByEmail email) ctx db ↔ Q (db.users.rows.find? fun u => u.email = email) db := Iff.rfl

@[simp] theorem UserRepository.wp_hasActiveDevicesOrRequests {userId : UUID} {Q : Bool → Db → Prop} :
    wp E Q (hasActiveDevicesOrRequests userId) ctx db ↔
      Q (db.items.rows.any (fun i => i.currentOwnerId = some userId) ||
        db.requests.rows.any fun r => r.requesterId = userId && r.status ∈ _NON_TERMINAL_REQUEST_STATUSES)
        db := Iff.rfl

@[simp] theorem ItemRepository.wp_getById {id : UUID} {Q : Option Item → Db → Prop} :
    wp E Q (getById id) ctx db ↔ Q (db.items.get? id) db := Iff.rfl

@[simp] theorem ItemRepository.wp_getBySerialNo {serialNo : String} {Q : Option Item → Db → Prop} :
    wp E Q (getBySerialNo serialNo) ctx db ↔ Q (db.items.rows.find? fun i => i.serialNo = serialNo) db :=
  Iff.rfl

@[simp] theorem RequestRepository.wp_getById {id : UUID} {Q : Option Request → Db → Prop} :
    wp E Q (getById id) ctx db ↔ Q (db.requests.get? id) db := Iff.rfl

@[simp] theorem RequestRepository.wp_hasOverlappingAssignedBooking {itemId : UUID} {f t : Datetime}
    {ex : Option UUID} {Q : Bool → Db → Prop} :
    wp E Q (hasOverlappingAssignedBooking itemId f t ex) ctx db ↔
      Q (db.requests.rows.any fun r => r.Overlaps itemId f t ∧ ex ≠ some r.id) db := Iff.rfl

@[simp] theorem SupportRequestRepository.wp_getById {id : UUID} {Q : Option SupportRequest → Db → Prop} :
    wp E Q (getById id) ctx db ↔ Q (db.supportRequests.get? id) db := Iff.rfl

@[simp] theorem ExtensionRequestRepository.wp_getById {id : UUID}
    {Q : Option ExtensionRequest → Db → Prop} :
    wp E Q (getById id) ctx db ↔ Q (db.extensionRequests.get? id) db := Iff.rfl

/-! ### Writes -/

namespace SQLAlchemyRepository

variable {α : Type} [Keyed α UUID] [Model α] {x : α} {Q : α → Db → Prop}

theorem wp_create : wp E Q (create x) ctx db ↔
    (stored db (SQLAlchemyRepository.born ctx x) ≠ none → E .integrityError) ∧
      (stored db (SQLAlchemyRepository.born ctx x) = none →
        (∀ e, Model.constraints db (SQLAlchemyRepository.born ctx x) = .error e → E e) ∧
          (Model.constraints db (SQLAlchemyRepository.born ctx x) = .ok () →
            Q (SQLAlchemyRepository.born ctx x) (Model.addRow db (SQLAlchemyRepository.born ctx x)))) := by
  simp [create]

theorem wp_update [DecidableEq α] : wp E Q (update x) ctx db ↔
    (∀ e, Model.constraints db (SQLAlchemyRepository.flushed ctx db x) = .error e → E e) ∧
      (Model.constraints db (SQLAlchemyRepository.flushed ctx db x) = .ok () →
        Q (SQLAlchemyRepository.flushed ctx db x)
          (Model.setRow db (SQLAlchemyRepository.flushed ctx db x))) := by
  simp [update]

theorem wp_create_isApp
    (hcheck : (∀ e, Model.constraints db (SQLAlchemyRepository.born ctx x) = .error e → e.IsApp) ↔
      Model.constraints db (SQLAlchemyRepository.born ctx x) = .ok ()) :
    wp Failure.IsApp Q (create x) ctx db ↔ stored db (SQLAlchemyRepository.born ctx x) = none ∧
      Model.constraints db (SQLAlchemyRepository.born ctx x) = .ok () ∧
        Q (SQLAlchemyRepository.born ctx x) (Model.addRow db (SQLAlchemyRepository.born ctx x)) := by
  rw [wp_create, hcheck]
  simp only [isApp_integrityError, imp_false, not_not]
  exact and_imp_iff.trans (and_congr_right' and_imp_iff)

theorem wp_update_isApp [DecidableEq α]
    (hcheck : (∀ e, Model.constraints db (SQLAlchemyRepository.flushed ctx db x) = .error e → e.IsApp) ↔
      Model.constraints db (SQLAlchemyRepository.flushed ctx db x) = .ok ()) :
    wp Failure.IsApp Q (update x) ctx db ↔
      Model.constraints db (SQLAlchemyRepository.flushed ctx db x) = .ok () ∧
        Q (SQLAlchemyRepository.flushed ctx db x)
          (Model.setRow db (SQLAlchemyRepository.flushed ctx db x)) := by
  rw [wp_update, hcheck]
  exact and_imp_iff

end SQLAlchemyRepository

@[simp] theorem UserRepository.wp_update {u : User} {Q : User → Db → Prop} :
    wp Failure.IsApp Q (update u) ctx db ↔ Model.constraints db (flushed ctx db u) = .ok () ∧
      Q (flushed ctx db u) (db.setUser (flushed ctx db u)) :=
  SQLAlchemyRepository.wp_update_isApp constraintCheck_isApp

@[simp] theorem ItemRepository.wp_update {i : Item} {Q : Item → Db → Prop} :
    wp Failure.IsApp Q (update i) ctx db ↔ Model.constraints db (flushed ctx db i) = .ok () ∧
      Q (flushed ctx db i) (db.setItem (flushed ctx db i)) :=
  SQLAlchemyRepository.wp_update_isApp constraintCheck_isApp

@[simp] theorem RequestRepository.wp_update {r : Request} {Q : Request → Db → Prop} :
    wp Failure.IsApp Q (update r) ctx db ↔ Model.constraints db (flushed ctx db r) = .ok () ∧
      Q (flushed ctx db r) (db.setRequest (flushed ctx db r)) :=
  SQLAlchemyRepository.wp_update_isApp constraintCheck_isApp

@[simp] theorem SupportRequestRepository.wp_update {t : SupportRequest} {Q : SupportRequest → Db → Prop} :
    wp Failure.IsApp Q (update t) ctx db ↔ Model.constraints db (flushed ctx db t) = .ok () ∧
      Q (flushed ctx db t) (db.setSupportRequest (flushed ctx db t)) :=
  SQLAlchemyRepository.wp_update_isApp constraintCheck_isApp

@[simp] theorem ExtensionRequestRepository.wp_update {x : ExtensionRequest}
    {Q : ExtensionRequest → Db → Prop} :
    wp Failure.IsApp Q (update x) ctx db ↔ Model.constraints db (flushed ctx db x) = .ok () ∧
      Q (flushed ctx db x) (db.setExtensionRequest (flushed ctx db x)) :=
  SQLAlchemyRepository.wp_update_isApp constraintCheck_isApp

@[simp] theorem UserRepository.wp_create {u : User} {Q : User → Db → Prop} :
    wp Failure.IsApp Q (create u) ctx db ↔ db.users.get? u.id = none ∧
      Model.constraints db (born ctx u) = .ok () ∧ Q (born ctx u) (db.addUser (born ctx u)) :=
  SQLAlchemyRepository.wp_create_isApp constraintCheck_isApp

@[simp] theorem ItemRepository.wp_create {i : Item} {Q : Item → Db → Prop} :
    wp Failure.IsApp Q (create i) ctx db ↔ db.items.get? i.id = none ∧
      Model.constraints db (born ctx i) = .ok () ∧ Q (born ctx i) (db.addItem (born ctx i)) :=
  SQLAlchemyRepository.wp_create_isApp constraintCheck_isApp

/-! ### Writes whose `IntegrityError` is translated -/

section
variable {m : String}

@[simp] theorem RequestRepository.wp_update_translated {r : Request} {Q : Request → Db → Prop} :
    wp (fun e => (integrityErrorAsConflict m e).IsApp) Q (update r) ctx db ↔
      (Model.constraints db (flushed ctx db r) = .ok () →
        Q (flushed ctx db r) (db.setRequest (flushed ctx db r))) :=
  SQLAlchemyRepository.wp_update.trans
    (and_iff_right (constraintCheck_isApp_translated.mpr trivial))

@[simp] theorem RequestRepository.wp_create_translated {r : Request} {Q : Request → Db → Prop} :
    wp (fun e => (integrityErrorAsConflict m e).IsApp) Q (create r) ctx db ↔
      (db.requests.get? r.id = none → Model.constraints db (born ctx r) = .ok () →
        Q (born ctx r) (db.addRequest (born ctx r))) := by
  refine SQLAlchemyRepository.wp_create.trans ((and_iff_right fun _ => ⟨_, rfl⟩).trans ?_)
  exact imp_congr_right fun _ => and_iff_right (constraintCheck_isApp_translated.mpr trivial)

@[simp] theorem ItemRepository.wp_update_translated {i : Item} {Q : Item → Db → Prop} :
    wp (fun e => (integrityErrorAsConflict m e).IsApp) Q (update i) ctx db ↔
      (flushed ctx db i).Fits ∧
        (Model.constraints db (flushed ctx db i) = .ok () →
          Q (flushed ctx db i) (db.setItem (flushed ctx db i))) :=
  SQLAlchemyRepository.wp_update.trans (and_congr_left' constraintCheck_isApp_translated)

end

/-! ### The log -/

@[simp] theorem DeviceLogService.wp_append {a : AppendArgs} {Q : DeviceLog → Db → Prop} :
    wp Failure.IsApp Q (append a) ctx db ↔ db.DeviceLogIntegral a.row ∧
      Q (a.written ctx) (db.appendLog (a.written ctx)) := by
  have hiff : db.DeviceLogIntegral { a.row with occurredAt := ctx.txTime } ↔ db.DeviceLogIntegral a.row :=
    Iff.rfl
  simp only [append, DeviceLogRepository.create, wp_bind, wp_ask, wp_get, wp_check, constraintCheck_isApp,
    wp_modify, wp_pure, constraintCheck_ok, hiff, true_and]
  exact and_imp_iff

end AssetPilot
