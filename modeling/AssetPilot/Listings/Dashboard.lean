import AssetPilot.Invariants.Coherence
import AssetPilot.Invariants.Ownership
import AssetPilot.Listings.Pages
import AssetPilot.Services.DashboardService

/-!
# The figures of the dashboard

The dashboard counts the rows of a table, and the lists count the rows that their joins leave. No join drops a
row, as the columns that they join on refer to rows. The breakdown leaves `returned_to_client` out, so that its
figures add up to the devices that are not back with a client.
-/

namespace AssetPilot

open Relational Txn Like DashboardService ItemRepository RequestRepository

variable {ctx : Ctx} {db : Db} {collation : Collation} {summary : DashboardSummary}

/-- Every page of the query counts `n` rows, whatever the answer to `ORDER BY`. -/
def Counts {α : Type} {le : α → α → Prop} (query : PaginationParams → OrderBy le → Service (Page α)) (db : Db)
    (n : Nat) : Prop :=
  ∀ ctx pagination order, ∃ page, (query pagination order).Runs ctx db page db ∧ page.totalItems = n

/-- The figures are those of the lists. -/
structure SummaryAgrees (collation : Collation) (db : Db) (summary : DashboardSummary) : Prop where
  total : ∃ returned,
    Counts (listItems collation none (some .returnedToClient) none none) db returned ∧
    Counts (listItems collation none none none none) db
      ((summary.statusBreakdown.map Prod.snd).sum + returned)
  complete : Counts (listItems collation none none none none) db (summary.statusBreakdown.map Prod.snd).sum ↔
    ∀ i ∈ db.items.rows, i.status ≠ .returnedToClient
  breakdown : ∀ key n, (key, n) ∈ summary.statusBreakdown ↔ ∃ status, status ≠ .returnedToClient ∧
    key = status.value ∧ Counts (listItems collation none (some status) none none) db n
  pending : ∃ m n,
    Counts (listRequests collation (some .pendingMgrApproval) none none none none none) db m ∧
    Counts (listRequests collation (some .pendingItApproval) none none none none none) db n ∧
    summary.pendingRequestsCount = m + n

theorem Counts.unique {α : Type} {le : α → α → Prop} [DecidableRel le] [Std.Total le] [IsTrans α le]
    {query : PaginationParams → OrderBy le → Service (Page α)} {m n : Nat} (hm : Counts query db m)
    (hn : Counts query db n) : m = n := by
  have params : PaginationParams := ⟨1, 1, le_refl 1, le_refl 1⟩
  obtain ⟨page, hpage, rfl⟩ := hm Sample.ctx params OrderBy.stable
  obtain ⟨page', hpage', rfl⟩ := hn Sample.ctx params OrderBy.stable
  have hsame := hpage.symm.trans hpage'
  simp only [Except.ok.injEq, Prod.mk.injEq, and_true] at hsame
  rw [hsame]

/-! ### The lists -/

theorem counts_listItems (collation : Collation) (h : db.Coherent) (status : Option DeviceStatus) :
    Counts (listItems collation none status none none) db
      (db.items.rows.countP fun i => Selects status i.status) := by
  intro ctx pagination order
  refine ⟨_, runs_listItems.mpr ⟨rfl, rfl⟩, Query.length_rows _ fun i hi => ?_⟩
  obtain ⟨c, hc⟩ := Option.ne_none_iff_exists'.mp
    ((Item.constraints_iff.mp (h.items i hi)).2.2.1 i.categoryId rfl)
  simp [itemQuery, hc, Selects, Searched]

theorem counts_listRequests (collation : Collation) (h : db.Coherent) (status : RequestStatus) :
    Counts (listRequests collation (some status) none none none none none) db
      (db.requests.rows.countP fun r => r.status = status) := by
  intro ctx pagination order
  refine ⟨_, runs_listRequests.mpr ⟨rfl, rfl⟩, Query.length_rows _ fun r hr => ?_⟩
  obtain ⟨hrequester, hcategory, -⟩ := (Request.constraints_iff.mp (h.requests r hr)).2
  obtain ⟨c, hc⟩ := Option.ne_none_iff_exists'.mp (hcategory r.categoryId rfl)
  obtain ⟨u, hu⟩ := Option.ne_none_iff_exists'.mp (hrequester r.requesterId rfl)
  simp [requestQuery, hc, hu, Selects, Searched]

/-! ### The figures -/

theorem mem_STATUS_BREAKDOWN_STATUSES {status : DeviceStatus} :
    status ∈ _STATUS_BREAKDOWN_STATUSES ↔ status ≠ .returnedToClient := by
  cases status <;> decide

theorem sum_statusBreakdown (rows : List Item) :
    (_STATUS_BREAKDOWN_STATUSES.map fun status => rows.countP fun i => i.status = status).sum +
      (rows.countP fun i => i.status = .returnedToClient) = rows.length := by
  have hcovers : ∀ i ∈ rows, i.status ∈ _STATUS_BREAKDOWN_STATUSES ++ [DeviceStatus.returnedToClient] := by
    intro i _
    cases i.status <;> decide
  have hcount := sum_countP_key Item.status rows
    (by decide : (_STATUS_BREAKDOWN_STATUSES ++ [DeviceStatus.returnedToClient]).Nodup)
  rw [List.map_append, List.sum_append, List.map_singleton, List.sum_singleton] at hcount
  exact hcount.trans (List.countP_eq_length.mpr fun i hi => decide_eq_true (hcovers i hi))

/-- **The dashboard agrees with the lists**, in every store that satisfies the constraints of the database. -/
theorem summary_agrees (h : db.Coherent) (hruns : getSummary.Runs ctx db summary db) :
    SummaryAgrees collation db summary := by
  obtain ⟨hbreakdown, hpending, -⟩ := runs_getSummary.mp hruns
  have hsum : (summary.statusBreakdown.map Prod.snd).sum =
      (_STATUS_BREAKDOWN_STATUSES.map fun status => db.items.rows.countP fun i => i.status = status).sum := by
    rw [hbreakdown, List.map_map]
    rfl
  have hall : Counts (listItems collation none none none none) db db.items.rows.length := by
    simpa [Selects] using counts_listItems collation h none
  have hstatus : ∀ status, Counts (listItems collation none (some status) none none) db
      (db.items.rows.countP fun i => i.status = status) := by
    intro status
    simpa [Selects] using counts_listItems collation h (some status)
  have htotal := sum_statusBreakdown db.items.rows
  refine ⟨⟨_, hstatus .returnedToClient, ?_⟩, ?_, fun key n => ?_, ?_⟩
  · rw [hsum, htotal]
    exact hall
  · have hnone : (db.items.rows.countP fun i => i.status = .returnedToClient) = 0 ↔
        ∀ i ∈ db.items.rows, i.status ≠ .returnedToClient := by simp [List.countP_eq_zero]
    rw [hsum, ← hnone]
    constructor
    · intro hsame
      have heq := hsame.unique hall
      omega
    · intro hzero
      rw [hzero, Nat.add_zero] at htotal
      exact htotal ▸ hall
  · rw [hbreakdown, List.mem_map]
    constructor
    · rintro ⟨status, hmem, heq⟩
      obtain ⟨rfl, rfl⟩ := Prod.mk.inj heq
      exact ⟨status, mem_STATUS_BREAKDOWN_STATUSES.mp hmem, rfl, hstatus status⟩
    · rintro ⟨status, hne, rfl, hcounts⟩
      exact ⟨status, mem_STATUS_BREAKDOWN_STATUSES.mpr hne, by rw [(hstatus status).unique hcounts]⟩
  · refine ⟨_, _, counts_listRequests collation h .pendingMgrApproval,
      counts_listRequests collation h .pendingItApproval, ?_⟩
    have hcount := sum_countP_key Request.status db.requests.rows
      (by decide : [RequestStatus.pendingMgrApproval, .pendingItApproval].Nodup)
    rw [hpending, ← hcount, List.map_cons, List.sum_cons, List.map_singleton, List.sum_singleton]

/-- One laptop is available, the other assigned. -/
theorem summary_agrees_two : ∃ summary, SummaryAgrees Sample.collation Sample.store summary :=
  ⟨_, summary_agrees (by decide : Sample.store.Coherent)
    (show getSummary.Runs Sample.ctx Sample.store _ Sample.store from rfl)⟩

/-- Laptop 1 goes back to a client, and the breakdown adds up to one of the two devices. -/
theorem summary_not_complete :
    let db := Sample.after [Sample.call (.changeStatus 1 .returnedToClient none 9)]
    db.Coherent ∧ (Sample.call (.changeStatus 1 .returnedToClient none 9)).Admitted ∧
      ∃ summary, getSummary.Runs Sample.ctx db summary db ∧
        ¬ Counts (listItems Sample.collation none none none none) db
          (summary.statusBreakdown.map Prod.snd).sum := by
  refine ⟨by decide, by decide, _, rfl, fun h => ?_⟩
  obtain ⟨page, hpage, hcount⟩ := h Sample.ctx ⟨1, 1, le_refl 1, le_refl 1⟩ OrderBy.stable
  obtain rfl := (runs_listItems.mp hpage).1
  exact absurd hcount (by decide)

end AssetPilot
