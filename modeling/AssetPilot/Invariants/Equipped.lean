import AssetPilot.Invariants.Coherence
import AssetPilot.Invariants.QueueDecisions
import AssetPilot.Invariants.Ranges
import AssetPilot.Repositories.Outcomes
import AssetPilot.Services.DashboardService

/-!
# A device once got is not lost

Three assertions, one of them after two rows have been written, and the inner joins of the extension lists take it
for granted that a request has a device. A request keeps having one: a swap gives it another, and the request that
has ended still names the last.
-/

namespace AssetPilot

open Relational System Txn

variable {ctx : Ctx} {db db' : Db} {e : Event} {requestId extensionId actorId : UUID} {note : Option String}

/-- Each request with a device has one in `db'` too. -/
def DevicesKept (db db' : Db) : Prop :=
  ∀ q r, db.requests.get? q = some r → r.assignedItemId ≠ none →
    ∃ r', db'.requests.get? q = some r' ∧ r'.assignedItemId ≠ none

/-- Assigned requests and the parents of extensions have a device. -/
structure Db.Served (db : Db) : Prop where
  assigned : db.Equipped
  parents : ∀ x ∈ db.extensionRequests.rows, ∀ r ∈ db.requests.rows, r.id = x.originalRequestId →
    r.assignedItemId ≠ none

instance (db : Db) : Decidable db.Served :=
  decidable_of_iff (db.Equipped ∧ ∀ x ∈ db.extensionRequests.rows, ∀ r ∈ db.requests.rows,
    r.id = x.originalRequestId → r.assignedItemId ≠ none) ⟨fun ⟨h₁, h₂⟩ => ⟨h₁, h₂⟩, fun h => ⟨h.1, h.2⟩⟩

/-- Extensions are filed on assigned requests. -/
def Event.ExtendsAssigned (db : Db) : Event → Prop
  | .portal _ (.fileExtension x) => ∀ r ∈ db.requests.get? x.originalRequestId, r.status = .assigned
  | _ => True

/-- No call finds a request without the device that it asserts. -/
structure AssertionsHold (db : Db) : Prop where
  updateBookingRange : ∀ ctx requestId f t,
    ¬ (AssignmentService.updateBookingRange requestId f t).Fails ctx db .assertionError
  approve : ∀ ctx extensionId note actorId,
    ¬ (ExtensionService.approve extensionId note actorId).Fails ctx db .assertionError
  reject : ∀ ctx extensionId note actorId,
    ¬ (ExtensionService.reject extensionId note actorId).Fails ctx db .assertionError

/-- The joins drop no extension, whatever the answer to `ORDER BY`. -/
structure ExtensionsListed (db : Db) : Prop where
  listed : ∀ ctx status order, ∃ rows, (ExtensionRequestRepository.listFiltered status order).Runs ctx db rows db ∧
    ∀ x ∈ db.extensionRequests, (rows.map ExtensionRequestRepository.ExtensionListRow.extensionRequest).count x =
      if Selects status x.status then 1 else 0
  shown : ∀ ctx, ∀ x ∈ db.extensionRequests, ∃ row,
    (ExtensionRequestRepository.getDetail x.id).Runs ctx db (some row) db ∧ row.extensionRequest = x
  counted : ∀ ctx order, ∃ summary rows, DashboardService.getSummary.Runs ctx db summary db ∧
    (ExtensionService.listExtensionRequests (some .pending) order).Runs ctx db rows db ∧
    summary.pendingExtensionsCount = rows.length

/-! ### One event -/

theorem Event.Rewrites.device_ne_none {r r' : Request} (h : e.Rewrites db r r') (hdevice : r.assignedItemId ≠ none) :
    r'.assignedItemId ≠ none := by
  cases h with
  | service h =>
    cases h with
    | assign | swapped => exact Option.some_ne_none _
    | _ => exact hdevice
  | portal h => cases h <;> exact hdevice

theorem Event.RequestsStep.devicesKept (h : e.RequestsStep db db') : DevicesKept db db' := by
  intro q r hr hdevice
  rcases h.stays hr with hsame | ⟨r', u, hw, hr'⟩
  · exact ⟨r, hsame, hdevice⟩
  · exact ⟨_, hr', hw.device_ne_none hdevice⟩

theorem Event.ExtensionsStep.parent_cases {x' : ExtensionRequest} (h : e.ExtensionsStep db db')
    (hx' : x' ∈ db'.extensionRequests) :
    (∃ x ∈ db.extensionRequests, x.originalRequestId = x'.originalRequestId) ∨
    ∃ ctx x, e = .portal ctx (.fileExtension x) ∧ x.originalRequestId = x'.originalRequestId := by
  cases h with
  | same hsame => exact .inl ⟨x', hsame ▸ hx', rfl⟩
  | review he hx hw hset =>
    rw [hset] at hx'
    rcases Table.mem_set.mp hx' with ⟨rfl, -⟩ | ⟨hx', -⟩
    · cases hw <;> exact .inl ⟨_, Table.get?_mem hx, rfl⟩
    · exact .inl ⟨x', hx', rfl⟩
  | manage he hx hmgr hset =>
    rw [hset] at hx'
    rcases Table.mem_set.mp hx' with ⟨rfl, -⟩ | ⟨hx', -⟩
    · exact .inl ⟨_, Table.get?_mem hx, rfl⟩
    · exact .inl ⟨x', hx', rfl⟩
  | @file ctx x u he hfresh hpending hinsert =>
    rw [hinsert] at hx'
    rcases (Table.mem_insert (r := { x with createdAt := u, updatedAt := u }) hfresh).mp hx' with hx' | rfl
    · exact .inl ⟨x', hx', rfl⟩
    · exact .inr ⟨ctx, x, he, rfl⟩

theorem Event.RequestsStep.of_fileExtension {x : ExtensionRequest}
    (h : (Event.portal ctx (.fileExtension x)).RequestsStep db db') : db'.requests = db.requests := by
  cases h with
  | same h => exact h
  | rewrite _ hw => cases hw with | portal hw => cases hw
  | create _ hc => cases hc

theorem Db.Served.step (h : db.Served) (hcoherent : db.Coherent) (hok : e.ExtendsAssigned db)
    (hcommits : e.Commits db db') : db'.Served where
  assigned := h.assigned.step hcommits
  parents := by
    intro x' hx' r' hr' hid
    have hr'' : db'.requests.get? x'.originalRequestId = some r' := hid ▸ Table.mem_iff_get?.mp hr'
    rcases hcommits.effects.extensions.parent_cases hx' with ⟨x, hx, hparent⟩ | ⟨ctx, x, rfl, hparent⟩
    · -- the parent was there, and had a device
      obtain ⟨r, hr⟩ := Option.ne_none_iff_exists'.mp
        ((ExtensionRequest.constraints_iff.mp (hcoherent.extensionRequests x hx)).1 x.originalRequestId rfl)
      obtain ⟨y, hy, hdevice⟩ := hcommits.effects.requests.devicesKept _ r hr
        (h.parents x hx r (Table.get?_mem hr) (Table.get?_key hr))
      obtain rfl := Option.some.inj ((hparent ▸ hy).symm.trans hr'')
      exact hdevice
    · have hsame := hcommits.effects.requests.of_fileExtension
      rw [hsame] at hr' hr''
      exact h.assigned r' hr' (hok r' (hparent.symm ▸ hr''))

/-! ### Assertions -/

/-- The call fails no assertion. -/
abbrev AssertsNothing {α : Type} (x : Service α) (ctx : Ctx) (db : Db) : Prop :=
  wp (· ≠ .assertionError) (fun _ _ => True) x ctx db

theorem Failure.IsApp.ne_assertionError {f : Failure} (h : f.IsApp) : f ≠ .assertionError := by
  rintro rfl
  exact isApp_assertionError h

theorem constraintCheck_ne_assertionError {fits integral : Prop} [Decidable fits] [Decidable integral] :
    ∀ e, constraintCheck fits integral = .error e → e ≠ .assertionError := by
  rintro e h rfl
  unfold constraintCheck at h
  split_ifs at h <;> cases h

theorem wp_append_ne_assertionError {a : DeviceLogService.AppendArgs} :
    AssertsNothing (DeviceLogService.append a) ctx db := by
  refine wp_true_iff.mpr fun e he => ?_
  rw [(DeviceLogService.fails_append.mp he).2]
  exact Failure.noConfusion

theorem RequestRepository.wp_update_ne_assertionError {r : Request} {Q : Request → Db → Prop} :
    wp (· ≠ .assertionError) Q (update r) ctx db ↔
      (Model.constraints db (SQLAlchemyRepository.flushed ctx db r) = .ok () →
        Q (SQLAlchemyRepository.flushed ctx db r) (db.setRequest (SQLAlchemyRepository.flushed ctx db r))) :=
  SQLAlchemyRepository.wp_update.trans (and_iff_right constraintCheck_ne_assertionError)

theorem ExtensionRequestRepository.wp_update_ne_assertionError {x : ExtensionRequest}
    {Q : ExtensionRequest → Db → Prop} :
    wp (· ≠ .assertionError) Q (update x) ctx db ↔
      (Model.constraints db (SQLAlchemyRepository.flushed ctx db x) = .ok () →
        Q (SQLAlchemyRepository.flushed ctx db x)
          (db.setExtensionRequest (SQLAlchemyRepository.flushed ctx db x))) :=
  SQLAlchemyRepository.wp_update.trans (and_iff_right constraintCheck_ne_assertionError)

theorem Db.Served.updateBookingRange_asserts {f t : Datetime} (h : db.Served) :
    AssertsNothing (AssignmentService.updateBookingRange requestId f t) ctx db := by
  simp only [AssertsNothing, AssignmentService.updateBookingRange, AssignmentService.getRequestOr404, wp_bind,
    RequestRepository.wp_getById, wp_orRaise, wp_raiseIf, RequestRepository.wp_hasOverlappingAssignedBooking,
    RequestRepository.wp_update_ne_assertionError, not_not]
  refine ⟨fun _ => (Failure.isApp_notFound _).ne_assertionError, fun r hr => ?_⟩
  refine ⟨fun _ => (Failure.isApp_conflict _).ne_assertionError, fun hassigned => ?_⟩
  refine ⟨fun hnone => absurd hnone (h.assigned r (Table.get?_mem hr) hassigned), fun d _ => ?_⟩
  exact ⟨fun _ => (Failure.isApp_conflict _).ne_assertionError, fun _ _ => trivial⟩

theorem Db.Served.parent {x : ExtensionRequest} {r : Request} (h : db.Served)
    (hx : db.extensionRequests.get? extensionId = some x) (hr : db.requests.get? x.originalRequestId = some r) :
    r.assignedItemId ≠ none :=
  h.parents x (Table.get?_mem hx) r (Table.get?_mem hr) (Table.get?_key hr)

theorem Db.Served.approve_asserts (h : db.Served) :
    AssertsNothing (ExtensionService.approve extensionId note actorId) ctx db := by
  simp only [AssertsNothing, ExtensionService.approve, ExtensionService.getExtensionOr404,
    ExtensionService.getParentRequestOr404, wp_bind, ExtensionRequestRepository.wp_getById,
    RequestRepository.wp_getById, wp_orRaise, wp_raiseIf, wp_utcNow, wp_pure,
    RequestRepository.wp_update_ne_assertionError, ExtensionRequestRepository.wp_update_ne_assertionError]
  refine ⟨fun _ => (Failure.isApp_notFound _).ne_assertionError, fun x hx => ?_⟩
  refine ⟨fun _ => (Failure.isApp_conflict _).ne_assertionError, fun _ => ?_⟩
  refine ⟨fun _ => (Failure.isApp_conflict _).ne_assertionError, fun _ => ?_⟩
  refine ⟨fun _ => (Failure.isApp_notFound _).ne_assertionError, fun r hr _ _ => ?_⟩
  -- the row as it was flushed has the device of the stored one
  have hdevice : r.assignedItemId ≠ none := h.parent hx hr
  exact ⟨fun hnone => absurd hnone hdevice, fun d _ => wp_append_ne_assertionError⟩

theorem Db.Served.reject_asserts (h : db.Served) :
    AssertsNothing (ExtensionService.reject extensionId note actorId) ctx db := by
  simp only [AssertsNothing, ExtensionService.reject, ExtensionService.getExtensionOr404,
    ExtensionService.getParentRequestOr404, wp_bind, ExtensionRequestRepository.wp_getById,
    RequestRepository.wp_getById, wp_orRaise, wp_raiseIf, wp_utcNow, wp_pure,
    ExtensionRequestRepository.wp_update_ne_assertionError]
  refine ⟨fun _ => (Failure.isApp_notFound _).ne_assertionError, fun x hx => ?_⟩
  refine ⟨fun _ => (Failure.isApp_conflict _).ne_assertionError, fun _ => ?_⟩
  refine ⟨fun _ => (Failure.isApp_notFound _).ne_assertionError, fun r hr _ => ?_⟩
  exact ⟨fun hnone => absurd hnone (h.parent hx hr), fun d _ => wp_append_ne_assertionError⟩

theorem Db.Served.assertionsHold (h : db.Served) : AssertionsHold db where
  updateBookingRange _ _ _ _ hfails := wp_true_iff.mp h.updateBookingRange_asserts _ hfails rfl
  approve _ _ _ _ hfails := wp_true_iff.mp h.approve_asserts _ hfails rfl
  reject _ _ _ _ hfails := wp_true_iff.mp h.reject_asserts _ hfails rfl

/-! ### Joins -/

theorem Db.Served.joined {x : ExtensionRequest} (h : db.Served) (hcoherent : db.Coherent)
    (hx : x ∈ db.extensionRequests) : ∃ r d i u, db.requests.get? x.originalRequestId = some r ∧
      r.assignedItemId = some d ∧ db.items.get? d = some i ∧ db.users.get? x.requesterId = some u := by
  obtain ⟨hparent, hrequester, -⟩ := ExtensionRequest.constraints_iff.mp (hcoherent.extensionRequests x hx)
  obtain ⟨r, hr⟩ := Option.ne_none_iff_exists'.mp (hparent x.originalRequestId rfl)
  obtain ⟨u, hu⟩ := Option.ne_none_iff_exists'.mp (hrequester x.requesterId rfl)
  obtain ⟨d, hd⟩ := Option.ne_none_iff_exists'.mp (h.parents x hx r (Table.get?_mem hr) (Table.get?_key hr))
  obtain ⟨-, -, hitem, -⟩ := (Request.constraints_iff.mp (hcoherent.requests r (Table.get?_mem hr))).2
  obtain ⟨i, hi⟩ := Option.ne_none_iff_exists'.mp (hitem d hd)
  exact ⟨r, d, i, u, hr, hd, hi, hu⟩

theorem Db.Served.detail {x : ExtensionRequest} (h : db.Served) (hcoherent : db.Coherent)
    (hx : x ∈ db.extensionRequests) : ∃ row,
      ((ExtensionRequestRepository.extensionDetailQuery x.id db).rows db.extensionRequests).head? = some row ∧
      row.extensionRequest = x := by
  have hselect : ∀ y ∈ db.extensionRequests,
      (ExtensionRequestRepository.extensionDetailQuery x.id db).select y ≠ none ↔ y.id = x.id := by
    intro y hy
    obtain ⟨r, d, i, u, hr, hd, hi, hu⟩ := h.joined hcoherent hy
    simp [ExtensionRequestRepository.extensionDetailQuery, hr, hd, hi, hu]
  obtain ⟨b, hb, -⟩ := (ExtensionRequestRepository.extensionDetailQuery x.id db).exists_mem_rows.mpr
    ⟨hx, (hselect x hx).mpr rfl⟩
  obtain ⟨row, hrow⟩ := Option.ne_none_iff_exists'.mp (mt List.head?_eq_none_iff.mp (List.ne_nil_of_mem hb))
  obtain ⟨hstored, hne⟩ := (ExtensionRequestRepository.extensionDetailQuery x.id db).exists_mem_rows.mp
    ⟨row, List.mem_of_mem_head? hrow, rfl⟩
  have hid : row.extensionRequest.id = x.id := (hselect _ hstored).mp hne
  have hget : db.extensionRequests.get? x.id = some row.extensionRequest := hid ▸ Table.mem_iff_get?.mp hstored
  exact ⟨row, hrow, Option.some.inj (hget.symm.trans (Table.mem_iff_get?.mp hx))⟩

theorem Db.Served.extensionsListed (h : db.Served) (hcoherent : db.Coherent) : ExtensionsListed db := by
  have hselect : ∀ status, ∀ x ∈ db.extensionRequests,
      (ExtensionRequestRepository.extensionQuery status db).select x ≠ none ↔ Selects status x.status := by
    intro status x hx
    obtain ⟨r, d, i, u, hr, hd, hi, hu⟩ := h.joined hcoherent hx
    simp [ExtensionRequestRepository.extensionQuery, hr, hd, hi, hu]
  refine ⟨fun ctx status order => ?_, fun ctx x hx => ?_, fun ctx order => ?_⟩
  · refine ⟨_, ExtensionRequestRepository.runs_listFiltered.mpr ⟨rfl, rfl⟩, fun x hx => ?_⟩
    rw [((order.perm _).map _).count_eq]
    exact Query.count_main_rows _ hx (hselect status x hx)
  · obtain ⟨row, hrow, hmain⟩ := h.detail hcoherent hx
    exact ⟨row, ExtensionRequestRepository.runs_getDetail.mpr ⟨hrow.symm, rfl⟩, hmain⟩
  · refine ⟨_, _, rfl, ExtensionService.runs_listExtensionRequests.mpr ⟨rfl, rfl⟩, ?_⟩
    have hpending : ∀ x ∈ db.extensionRequests,
        (ExtensionRequestRepository.extensionQuery (some .pending) db).select x ≠ none ↔ x.status = .pending := by
      intro x hx
      simpa [Selects] using hselect (some .pending) x hx
    rw [order.length_sort, Query.length_rows _ hpending]

/-! ### Runs -/

theorem Db.Served.of_run (h : db.Served) (hcoherent : db.Coherent)
    (run : Run Step (fun db e => e.ExtendsAssigned db) db db') : db'.Coherent ∧ db'.Served := by
  refine run.inv (P := fun s => s.Coherent ∧ s.Served) (fun s e s' hs hok hstep => ?_) ⟨hcoherent, h⟩
  rcases hstep.cases with rfl | hcommits
  · exact hs
  · exact ⟨hs.1.step hcommits, hs.2.step hs.1 hok hcommits⟩

theorem DevicesKept.of_run {ok : Db → Event → Prop} (run : Run Step ok db db') : DevicesKept db db' := by
  intro q r hr hdevice
  refine run.inv (P := fun s => ∃ r', s.requests.get? q = some r' ∧ r'.assignedItemId ≠ none)
    (fun s e s' hs _ hstep => ?_) ⟨r, hr, hdevice⟩
  rcases hstep.cases with rfl | hcommits
  · exact hs
  · obtain ⟨r', hr', hdevice'⟩ := hs
    exact hcommits.effects.requests.devicesKept q r' hr' hdevice'

/-- **A request that once got a device never loses it**, in a run that files extensions on assigned requests, and
the assertions, the joins and the count that rely on it are right in every state that it reaches. -/
theorem devicesKept_of_run {db₀ : Db} (hcoherent : db₀.Coherent) (hserved : db₀.Served)
    (run : Run Step (fun db e => e.ExtendsAssigned db) db₀ db)
    (run' : Run Step (fun db e => e.ExtendsAssigned db) db db') :
    DevicesKept db db' ∧ db'.Served ∧ AssertionsHold db' ∧ ExtensionsListed db' := by
  obtain ⟨hcoherent₁, hserved₁⟩ := hserved.of_run hcoherent run
  obtain ⟨hcoherent', hserved'⟩ := hserved₁.of_run hcoherent₁ run'
  exact ⟨.of_run run', hserved', hserved'.assertionsHold, hserved'.extensionsListed hcoherent'⟩

/-- An extension of request 2 is filed, the laptop comes back, and the extension is still in the list. -/
theorem devicesKept_of_run_return :
    let filed := Sample.fileExtension.exec Sample.store
    let returned := (Sample.call (.completeReturn 2 .available 9)).exec filed
    DevicesKept filed returned ∧ returned.Served ∧ AssertionsHold returned ∧ ExtensionsListed returned := by
  have hok : Sample.fileExtension.ExtendsAssigned Sample.store := by
    intro r hr
    obtain rfl := Option.some.inj hr
    rfl
  exact devicesKept_of_run (by decide : Sample.store.Coherent) (by decide)
    (.step .refl Sample.fileExtension hok rfl)
    (.step .refl (Sample.call (.completeReturn 2 .available 9)) trivial rfl)

end AssetPilot
