import AssetPilot.Lib.Coupling
import AssetPilot.Services.DeviceLogService

/-!
# Stores that differ in password hashes

`db.Alike db'`: the same store, apart from what is stored under `password_hash`. The operations of the repositories
on the other tables cannot tell such stores apart.
-/

namespace AssetPilot

open Relational Txn
open SQLAlchemyRepository (flushed born stored)

variable {ctx : Ctx} {db db' : Db}

/-- The row without its hash. -/
def User.masked (u : User) : User := { u with passwordHash := none }

/-- What the column takes as a hash is there. -/
def User.Hashed (u : User) : Prop := u.passwordHash ≠ none ∧ ∀ h ∈ u.passwordHash, IsVarchar h

structure Db.Alike (db db' : Db) : Prop where
  users : db.users.rows.map User.masked = db'.users.rows.map User.masked
  hashed : ∀ u ∈ db.users, u.Hashed
  hashed' : ∀ u ∈ db'.users, u.Hashed
  rest : db' = { db with users := db'.users }

namespace Db.Alike

theorem find? {p : User → Bool} (h : db.Alike db') (hp : ∀ u, p u.masked = p u) :
    (db.users.rows.find? p).map User.masked = (db'.users.rows.find? p).map User.masked := by
  have hmasked : p ∘ User.masked = p := funext hp
  have hfind (rows : List User) : (rows.map User.masked).find? p = (rows.find? p).map User.masked := by
    rw [List.find?_map, hmasked]
  rw [← hfind, ← hfind, h.users]

theorem get? (h : db.Alike db') (k : UUID) :
    (db.users.get? k).map User.masked = (db'.users.get? k).map User.masked :=
  h.find? fun _ => rfl

theorem get?_eq_none (h : db.Alike db') {k : UUID} : db.users.get? k = none ↔ db'.users.get? k = none := by
  rw [← Option.map_eq_none_iff (f := User.masked), h.get?, Option.map_eq_none_iff]

theorem references (h : db.Alike db') (k : Option UUID) : db.users.References k ↔ db'.users.References k :=
  forall₂_congr fun _ _ => not_congr h.get?_eq_none

theorem write (h : db.Alike db') (f : Db → Db) (husers : ∀ db, (f db).users = db.users)
    (hf : ∀ db us, f { db with users := us } = { f db with users := us }) : (f db).Alike (f db') := by
  refine ⟨?_, ?_, ?_, ?_⟩
  · rw [husers, husers, h.users]
  · rw [husers]
    exact h.hashed
  · rw [husers]
    exact h.hashed'
  · rw [husers]
    conv_lhs => rw [h.rest]
    exact hf db db'.users

end Db.Alike

/-! ### Tables without secrets -/

theorem constraintCheck_congr {fits fits' integral integral' : Prop} [Decidable fits] [Decidable fits']
    [Decidable integral] [Decidable integral'] (hfits : fits ↔ fits') (hintegral : integral ↔ integral') :
    constraintCheck fits integral = constraintCheck fits' integral' := by
  unfold constraintCheck
  simp only [hfits, hintegral]

/-- A mapped class that is stored and checked beside the hashes. -/
class Model.Public (α : Type) [Keyed α UUID] [Model α] : Prop where
  table : ∀ {db db' : Db}, db.Alike db' → (Model.table db : Table α) = Model.table db'
  constraints : ∀ {db db' : Db}, db.Alike db' → ∀ x : α, Model.constraints db x = Model.constraints db' x
  setRow : ∀ {db db' : Db}, db.Alike db' → ∀ x : α, (Model.setRow db x).Alike (Model.setRow db' x)
  addRow : ∀ {db db' : Db}, db.Alike db' → ∀ x : α, (Model.addRow db x).Alike (Model.addRow db' x)

instance : Model.Public Item where
  table h := by rw [h.rest]; rfl
  constraints h i := by
    refine constraintCheck_congr Iff.rfl ?_
    rw [h.rest]
    exact and_congr_right' (and_congr_right' (h.references _))
  setRow h i := h.write (·.setItem i) (fun _ => rfl) fun _ _ => rfl
  addRow h i := h.write (·.addItem i) (fun _ => rfl) fun _ _ => rfl

instance : Model.Public Request where
  table h := by rw [h.rest]; rfl
  constraints h r := by
    refine constraintCheck_congr Iff.rfl ?_
    rw [h.rest]
    exact and_congr_right' (and_congr (h.references _) (and_congr_right' (and_congr_right' (and_congr (h.references _)
      (and_congr (h.references _) (and_congr (h.references _) (h.references _)))))))
  setRow h r := h.write (·.setRequest r) (fun _ => rfl) fun _ _ => rfl
  addRow h r := h.write (·.addRequest r) (fun _ => rfl) fun _ _ => rfl

instance : Model.Public SupportRequest where
  table h := by rw [h.rest]; rfl
  constraints h t := by
    refine constraintCheck_congr Iff.rfl ?_
    rw [h.rest]
    exact and_congr_right' (and_congr (h.references _) (and_congr_right' (and_congr_right' (h.references _))))
  setRow h t := h.write (·.setSupportRequest t) (fun _ => rfl) fun _ _ => rfl
  addRow h t := h.write (·.addSupportRequest t) (fun _ => rfl) fun _ _ => rfl

instance : Model.Public ExtensionRequest where
  table h := by rw [h.rest]; rfl
  constraints h x := by
    refine constraintCheck_congr Iff.rfl ?_
    rw [h.rest]
    exact and_congr_right' (and_congr (h.references _) (and_congr (h.references _) (h.references _)))
  setRow h x := h.write (·.setExtensionRequest x) (fun _ => rfl) fun _ _ => rfl
  addRow h x := h.write (·.addExtensionRequest x) (fun _ => rfl) fun _ _ => rfl

/-- The call cannot tell stores apart that differ in password hashes. -/
abbrev Unseeing {α : Type} (x : Service α) : Prop := Blind Db.Alike x

/-! ### The repositories -/

theorem Unseeing.query {α : Type} {f : Db → α} (hf : ∀ db us, f { db with users := us } = f db) :
    Unseeing (do let db ← get; return f db) :=
  Blind.read fun db db' h => by rw [h.rest]; exact (hf db db'.users).symm

theorem unseeing_utcNow (k : Nat) : Unseeing (utcNow k) := Blind.ask.bind fun _ => Blind.pure _

theorem unseeing_uuid4 (k : Nat) : Unseeing (uuid4 k) := Blind.ask.bind fun _ => Blind.pure _

namespace SQLAlchemyRepository

variable {α : Type} [Keyed α UUID] [Model α] [Model.Public α]

theorem stored_eq (h : db.Alike db') (x : α) : stored db x = stored db' x := by
  rw [stored, stored, Model.Public.table h]

theorem unseeing_create (x : α) : Unseeing (create x) := by
  intro ctx db db' h
  have hstored := stored_eq h (SQLAlchemyRepository.born ctx x)
  have hchecks := Model.Public.constraints h (SQLAlchemyRepository.born ctx x)
  rcases (create x).runs_or_fails ctx db with ⟨row, t, hruns⟩ | ⟨e, hfails⟩
  · obtain ⟨hfresh, hok, rfl, rfl⟩ := runs_create.mp hruns
    have hruns' : (create x).Runs ctx db' _ _ := runs_create.mpr ⟨hstored ▸ hfresh, hchecks ▸ hok, rfl, rfl⟩
    exact .of_runs hruns hruns' ⟨rfl, Model.Public.addRow h _⟩
  · refine .of_fails hfails (fails_create.mpr ?_)
    rw [← hstored, ← hchecks]
    exact fails_create.mp hfails

theorem unseeing_update [DecidableEq α] (x : α) : Unseeing (update x) := by
  intro ctx db db' h
  have hflushed : SQLAlchemyRepository.flushed ctx db x = SQLAlchemyRepository.flushed ctx db' x := by
    rw [SQLAlchemyRepository.flushed, SQLAlchemyRepository.flushed, stored_eq h]
  have hchecks := Model.Public.constraints h (SQLAlchemyRepository.flushed ctx db x)
  rcases (update x).runs_or_fails ctx db with ⟨row, t, hruns⟩ | ⟨e, hfails⟩
  · obtain ⟨hok, rfl, rfl⟩ := runs_update.mp hruns
    have hruns' : (update x).Runs ctx db' _ _ := runs_update.mpr ⟨hchecks ▸ hok, hflushed, rfl⟩
    exact .of_runs hruns hruns' ⟨rfl, Model.Public.setRow h _⟩
  · refine .of_fails hfails (fails_update.mpr ?_)
    rw [← hflushed, ← hchecks]
    exact fails_update.mp hfails

end SQLAlchemyRepository

theorem ItemCategoryRepository.unseeing_getById (id : UUID) : Unseeing (getById id) := .query fun _ _ => rfl

namespace ItemRepository

theorem unseeing_getById (id : UUID) : Unseeing (getById id) := .query fun _ _ => rfl

theorem unseeing_getBySerialNo (serialNo : String) : Unseeing (getBySerialNo serialNo) := .query fun _ _ => rfl

theorem unseeing_create (i : Item) : Unseeing (create i) := SQLAlchemyRepository.unseeing_create i

theorem unseeing_update (i : Item) : Unseeing (update i) := SQLAlchemyRepository.unseeing_update i

end ItemRepository

namespace RequestRepository

theorem unseeing_getById (id : UUID) : Unseeing (getById id) := .query fun _ _ => rfl

theorem unseeing_hasOverlappingAssignedBooking (itemId : UUID) (f t : Datetime) (ex : Option UUID) :
    Unseeing (hasOverlappingAssignedBooking itemId f t ex) :=
  .query fun _ _ => rfl

theorem unseeing_create (r : Request) : Unseeing (create r) := SQLAlchemyRepository.unseeing_create r

theorem unseeing_update (r : Request) : Unseeing (update r) := SQLAlchemyRepository.unseeing_update r

end RequestRepository

namespace SupportRequestRepository

theorem unseeing_getById (id : UUID) : Unseeing (getById id) := .query fun _ _ => rfl

theorem unseeing_listOpenForItem (itemId : UUID) : Unseeing (listOpenForItem itemId) := .query fun _ _ => rfl

theorem unseeing_update (t : SupportRequest) : Unseeing (update t) := SQLAlchemyRepository.unseeing_update t

end SupportRequestRepository

namespace ExtensionRequestRepository

theorem unseeing_getById (id : UUID) : Unseeing (getById id) := .query fun _ _ => rfl

theorem unseeing_update (x : ExtensionRequest) : Unseeing (update x) := SQLAlchemyRepository.unseeing_update x

end ExtensionRequestRepository

/-- The log refers to users, and names no hash. -/
theorem DeviceLogService.unseeing_append (a : AppendArgs) : Unseeing (append a) := by
  intro ctx db db' h
  have hintegral (l : DeviceLog) : db.DeviceLogIntegral l ↔ db'.DeviceLogIntegral l := by
    rw [h.rest]
    exact and_congr_right' (and_congr_left' (h.references _))
  rcases (append a).runs_or_fails ctx db with ⟨l, t, hruns⟩ | ⟨e, hfails⟩
  · obtain ⟨hok, rfl, rfl⟩ := DeviceLogRepository.runs_create.mp hruns
    have hruns' : (append a).Runs ctx db' _ _ := DeviceLogRepository.runs_create.mpr ⟨(hintegral _).mp hok, rfl, rfl⟩
    exact .of_runs hruns hruns' ⟨rfl, h.write (·.appendLog _) (fun _ => rfl) fun _ _ => rfl⟩
  · refine .of_fails hfails (DeviceLogRepository.fails_create.mpr ?_)
    rw [← hintegral]
    exact DeviceLogRepository.fails_create.mp hfails

end AssetPilot
