import AssetPilot.Lib.Pages

/-!
# Pagination

`app/utils/pagination.py`: the query parameters of a list endpoint and the page it answers with. `paginate` is
what the paginated repositories do with the rows of their query: they count them, and select those of the page.
-/

namespace AssetPilot

open Relational

/-- `page: int = Field(ge=1)`, `page_size: int = Field(ge=1, …)`. -/
structure PaginationParams where
  page : Nat
  pageSize : Nat
  page_ge : 1 ≤ page
  pageSize_ge : 1 ≤ pageSize

namespace PaginationParams

def offset (p : PaginationParams) : Nat := (p.page - 1) * p.pageSize

def limit (p : PaginationParams) : Nat := p.pageSize

end PaginationParams

structure PaginationMeta where
  page : Nat
  pageSize : Nat
  totalItems : Nat
  totalPages : Nat
  deriving DecidableEq

structure Page (α : Type) where
  items : List α
  totalItems : Nat
  page : Nat
  pageSize : Nat
  deriving DecidableEq

variable {α : Type}

namespace Page

/-- `-(-self.total_items // self.page_size)`: the division rounds down. -/
def totalPages (p : Page α) : Nat :=
  if p.pageSize ≤ 0 then 0 else (-(-(p.totalItems : Int) / p.pageSize)).toNat

def toMeta (p : Page α) : PaginationMeta where
  page := p.page
  pageSize := p.pageSize
  totalItems := p.totalItems
  totalPages := p.totalPages

theorem totalPages_eq {p : Page α} (h : 1 ≤ p.pageSize) : p.totalPages = pageCount p.pageSize p.totalItems := by
  have hpos : (0 : Int) < p.pageSize := by omega
  refine eq_of_forall_lt_iff fun n => ?_
  rw [lt_pageCount h, totalPages, if_neg (by omega), Int.lt_toNat, Int.lt_neg_iff, Int.ediv_lt_iff_lt_mul hpos,
    Int.neg_mul, Int.neg_lt_neg_iff, ← Int.natCast_mul, Int.ofNat_lt]

end Page

/-- `count(*)` over the rows, and the page of one answer to `ORDER BY`. -/
def paginate {le : α → α → Prop} (order : OrderBy le) (pagination : PaginationParams) (rows : List α) : Page α where
  items := ((order.sort rows).drop pagination.offset).take pagination.limit
  totalItems := rows.length
  page := pagination.page
  pageSize := pagination.pageSize

end AssetPilot
