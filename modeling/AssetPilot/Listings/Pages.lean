import AssetPilot.Invariants.Store
import AssetPilot.Repositories.Listings

/-!
# The pages of the list queries

Every page of a list is the answer to a query of its own, and `ORDER BY created_at` says nothing of rows that were
created in one transaction. The pages make up the rows of the list exactly when rows that tie on the sort keys
are on one page.
-/

namespace AssetPilot

open Relational Txn Like

/-! ### Any paginated query -/

section

variable {α : Type} {le : α → α → Prop}

/-- The pages of the query, fetched one by one: `page p` comes with the answer `order p` to its `ORDER BY`. -/
def Fetched (query : PaginationParams → OrderBy le → Service (Page α)) (db : Db) (k : Nat) (ctx : Nat → Ctx)
    (order : Nat → OrderBy le) (page : Nat → Page α) : Prop :=
  ∀ params : PaginationParams, params.pageSize = k →
    (query params (order params.page)).Runs (ctx params.page) db (page params.page) db

/-- Fetched with `k` rows a page, the pages up to the last that the metadata counts make up the rows, each of
them once, and these are the pages that are not empty. -/
structure PagesCover (query : PaginationParams → OrderBy le → Service (Page α)) (rows : List α) (db : Db)
    (k : Nat) : Prop where
  rows : ∀ ctx order page, Fetched query db k ctx order page →
    ((List.range (page 1).toMeta.totalPages).flatMap fun p => (page (p + 1)).items).Perm rows
  filled : ∀ ctx order page, Fetched query db k ctx order page → ∀ p, 1 ≤ p →
    ((page p).items ≠ [] ↔ 1 ≤ p ∧ p ≤ (page p).toMeta.totalPages)

variable {query : PaginationParams → OrderBy le → Service (Page α)} {rows : List α} {db : Db} {k : Nat}

theorem totalPages_paginate {order : OrderBy le} {params : PaginationParams} :
    (paginate order params rows).toMeta.totalPages = pageCount params.pageSize rows.length :=
  Page.totalPages_eq params.pageSize_ge

theorem Fetched.page_eq (hquery : ∀ {params order ctx page},
      (query params order).Runs ctx db page db ↔ page = paginate order params rows) (hk : 1 ≤ k)
    {ctx : Nat → Ctx} {order : Nat → OrderBy le} {page' : Nat → Page α}
    (h : Fetched query db k ctx order page') (p : Nat) :
    (page' (p + 1)).items = page k p ((order (p + 1)).sort rows) ∧
      (page' (p + 1)).toMeta.totalPages = pageCount k rows.length := by
  rw [hquery.mp (h ⟨p + 1, k, Nat.le_add_left 1 p, hk⟩ rfl)]
  exact ⟨rfl, totalPages_paginate⟩

theorem exists_fetched (hquery : ∀ {params order ctx page},
      (query params order).Runs ctx db page db ↔ page = paginate order params rows)
    (hk : 1 ≤ k) (ctx : Nat → Ctx) (order : Nat → OrderBy le) : ∃ page, Fetched query db k ctx order page := by
  refine ⟨fun p => paginate (order p) ⟨max p 1, k, Nat.le_max_right p 1, hk⟩ rows, ?_⟩
  rintro ⟨p, _, hp, hsize⟩ rfl
  simp only [hquery, Nat.max_eq_left hp]

variable [DecidableEq α] [DecidableRel le] [Std.Total le] [IsTrans α le]

/-- **The pages of a query make up its rows** exactly when rows with equal keys are on one page. -/
theorem pagesCover_iff (hquery : ∀ {params order ctx page},
      (query params order).Runs ctx db page db ↔ page = paginate order params rows)
    (hk : 1 ≤ k) (hnodup : rows.Nodup) : PagesCover query rows db k ↔ TiesOnOnePage le k rows := by
  rw [← pages_perm_iff hk hnodup]
  constructor
  · intro hcover o
    obtain ⟨page', hfetched⟩ := exists_fetched hquery hk (fun _ => Sample.ctx) fun p => o (p - 1)
    simpa only [hfetched.page_eq hquery hk, Nat.add_sub_cancel] using hcover.rows _ _ page' hfetched
  · intro hperm
    refine ⟨fun ctx order page' hfetched => ?_, fun ctx order page' hfetched p hp => ?_⟩
    · simp only [hfetched.page_eq hquery hk]
      exact hperm fun p => order (p + 1)
    · obtain ⟨p, rfl⟩ := Nat.exists_eq_add_of_le' hp
      obtain ⟨hitems, hcount⟩ := hfetched.page_eq hquery hk p
      rw [hitems, hcount, page_ne_nil_iff hk, OrderBy.length_sort, ← lt_pageCount hk]
      omega

end

/-! ### The four queries -/

open ItemRepository RequestRepository UserRepository

/-- **The pages of a list make up its rows** exactly when rows that tie on its sort keys are on one page: devices,
requests and users that were created at one time, requests for approval of one priority that were. -/
theorem listPages_cover_iff (collation : Collation) (db : Db) {k : Nat} (hk : 1 ≤ k) :
    (∀ categoryId status ownerType search,
      let rows := (itemQuery collation categoryId status ownerType search db).rows db.items
      PagesCover (listItems collation categoryId status ownerType search) rows db k ↔
        TiesOnOnePage (Desc fun row => row.item.createdAt) k rows) ∧
    (∀ status categoryId priority requestedFrom requestedTo search,
      let rows :=
        (requestQuery collation status categoryId priority requestedFrom requestedTo search db).rows db.requests
      PagesCover (listRequests collation status categoryId priority requestedFrom requestedTo search) rows db k ↔
        TiesOnOnePage (Desc fun row => row.request.createdAt) k rows) ∧
    (let rows := (itApprovalQuery db).rows db.requests
     PagesCover listItApprovals rows db k ↔ TiesOnOnePage approvalOrder k rows) ∧
    ∀ role isActive search,
      let rows := (userQuery collation role isActive search db).rows db.users
      PagesCover (listUsers collation role isActive search) rows db k ↔
        TiesOnOnePage (Desc fun row => row.user.createdAt) k rows := by
  refine ⟨?_, ?_, ?_, ?_⟩
  · intro categoryId status ownerType search
    exact pagesCover_iff (by simp) hk (Query.nodup_rows _)
  · intro status categoryId priority requestedFrom requestedTo search
    exact pagesCover_iff (by simp) hk (Query.nodup_rows _)
  · exact pagesCover_iff (by simp) hk (Query.nodup_rows _)
  · intro role isActive search
    exact pagesCover_iff (by simp) hk (Query.nodup_rows _)

namespace Sample

theorem toLower_eq_iff {m c : Char} (hm : m ∈ '\x00' :: metacharacters) : c.toLower = m ↔ c = m := by
  have hm' : m = '\x00' ∨ m = '%' ∨ m = '_' ∨ m = '\\' := by simpa [metacharacters] using hm
  unfold Char.toLower
  split
  · next h =>
    -- a letter, before and after
    constructor
    · intro he
      have hcode := congrArg (fun c : Char => c.val.toNat) he
      simp [UInt32.le_iff_toNat_le, UInt32.toNat_add] at h hcode
      rcases hm' with rfl | rfl | rfl | rfl <;> simp at hcode <;> omega
    · rintro rfl
      rcases hm' with rfl | rfl | rfl | rfl <;> revert h <;> decide
  · rfl

/-- A collation that knows the letters of ASCII. -/
def collation : Collation := ⟨Char.toLower, fun _ hm _ => toLower_eq_iff hm, id⟩

end Sample

/-- The two devices were created at one time, and are on one page of two. -/
theorem listPages_cover_iff_two : PagesCover (listItems Sample.collation none none none none)
    ((itemQuery Sample.collation none none none none Sample.store).rows Sample.store.items) Sample.store 2 :=
  ((listPages_cover_iff Sample.collation Sample.store (by decide : 1 ≤ 2)).1 none none none none).mpr (by decide)

/-- On pages of one device, they may come so that one of them is on both pages. -/
theorem listItems_not_pagesCover : ¬ PagesCover (listItems Sample.collation none none none none)
    ((itemQuery Sample.collation none none none none Sample.store).rows Sample.store.items) Sample.store 1 := by
  intro h
  have hties := (pagesCover_iff (by simp) (by decide) (Query.nodup_rows _)).mp h
  revert hties
  decide

end AssetPilot
