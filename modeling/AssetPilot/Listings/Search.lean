import AssetPilot.Invariants.Coherence
import AssetPilot.Listings.Pages

/-!
# Searching the lists

What a user types into a search is pasted into an `ILIKE` pattern as it is. It is a search for a substring exactly
where it has no metacharacter, or where no text that a column holds is as long as the shortest text it matches.
-/

namespace AssetPilot

open Relational Txn Like ItemRepository RequestRepository UserRepository

variable {collation : Collation} {s : String} {db : Db}

/-- One of the texts contains `s`, upper and lower case aside. -/
def Contained (collation : Collation) (s : String) (texts : List String) : Prop :=
  ∃ text ∈ texts, collation.Contains text s

instance (texts : List String) : Decidable (Contained collation s texts) := inferInstanceAs (Decidable (∃ x ∈ _, _))

/-- The row is on a page of the query, where all pages are of one answer and have `k` rows. -/
def Lists {α : Type} {le : α → α → Prop} (query : PaginationParams → OrderBy le → Service (Page α)) (ctx : Ctx)
    (db : Db) (order : OrderBy le) (k : Nat) (row : α) : Prop :=
  ∃ params page, params.pageSize = k ∧ (query params order).Runs ctx db page db ∧ row ∈ page.items

/-! ### The law, for each of the four queries -/

def ItemsSearch (collation : Collation) (s : String) : Prop :=
  ∀ db, Db.Coherent db → ∀ ctx order k, 1 ≤ k → ∀ i,
    (∃ row, Lists (listItems collation none none none (some s)) ctx db order k row ∧ row.item = i) ↔
      i ∈ db.items ∧ Contained collation s [i.name, i.serialNo]

def ClientAvailableSearch (collation : Collation) (s : String) : Prop :=
  ∀ db, Db.Coherent db → ∀ ctx order rows, (listClientAvailable collation none (some s) order).Runs ctx db rows db →
    ∀ i, (∃ row ∈ rows, row.item = i) ↔
      i ∈ db.items ∧ (i.ownerType = .client ∧ i.status = .available) ∧ Contained collation s [i.name, i.serialNo]

def RequestsSearch (collation : Collation) (s : String) : Prop :=
  ∀ db, Db.Coherent db → ∀ ctx order k, 1 ≤ k → ∀ r,
    (∃ row, Lists (listRequests collation none none none none none (some s)) ctx db order k row ∧
      row.request = r) ↔
      r ∈ db.requests ∧ ∃ u ∈ db.users.get? r.requesterId, Contained collation s [u.name, u.email]

def UsersSearch (collation : Collation) (s : String) : Prop :=
  ∀ db, Db.Coherent db → ∀ ctx order k, 1 ≤ k → ∀ u,
    (∃ row, Lists (listUsers collation none none (some s)) ctx db order k row ∧ row.user = u) ↔
      u ∈ db.users ∧ Contained collation s [u.name, u.email]

/-- What is typed has no metacharacter, or is no text that a column holds, metacharacters aside. -/
def Searchable (s : String) : Prop := Literal s ∨ ¬ IsVarchar (shortestMatch s)

instance (s : String) : Decidable (Searchable s) := inferInstanceAs (Decidable (_ ∨ _))

/-! ### What the queries list -/

section

variable {α β κ : Type} [Keyed α κ] {le : β → β → Prop}
  {query : PaginationParams → OrderBy le → Service (Page β)} {q : Query α β} {t : Table α}

theorem lists_iff (hquery : ∀ {params order ctx page},
      (query params order).Runs ctx db page db ↔ page = paginate order params (q.rows t))
    {ctx : Ctx} {order : OrderBy le} {k : Nat} (hk : 1 ≤ k) {a : α} :
    (∃ row, Lists query ctx db order k row ∧ q.main row = a) ↔ a ∈ t ∧ q.select a ≠ none := by
  have hlists : ∀ row, Lists query ctx db order k row ↔ row ∈ q.rows t := fun row => by
    rw [← order.mem_sort, ← exists_mem_page hk]
    constructor
    · rintro ⟨params, page', rfl, hruns, hrow⟩
      obtain rfl := hquery.mp hruns
      exact ⟨params.page - 1, hrow⟩
    · intro ⟨p, hrow⟩
      exact ⟨⟨p + 1, k, Nat.le_add_left 1 p, hk⟩, _, rfl, hquery.mpr rfl, hrow⟩
  simp only [hlists]
  exact q.exists_mem_rows

theorem lists_exactly_iff [DecidableRel le] [Std.Total le] [IsTrans β le] {passes wanted : α → Prop}
    (hquery : ∀ {params order ctx page},
      (query params order).Runs ctx db page db ↔ page = paginate order params (q.rows t))
    (hselect : ∀ a ∈ t, (q.select a ≠ none ↔ passes a)) :
    (∀ ctx order k, 1 ≤ k → ∀ a,
        (∃ row, Lists query ctx db order k row ∧ q.main row = a) ↔ a ∈ t ∧ wanted a) ↔
      ∀ a ∈ t, (passes a ↔ wanted a) := by
  have hlists : ∀ ctx order k, 1 ≤ k → ∀ a,
      (∃ row, Lists query ctx db order k row ∧ q.main row = a) ↔ a ∈ t ∧ passes a := fun ctx order k hk a =>
    (lists_iff hquery hk).trans (and_congr_right (hselect a))
  constructor
  · intro h a
    have hone := h Sample.ctx OrderBy.stable 1 (Nat.le_refl 1) a
    exact and_congr_right_iff.mp ((hlists Sample.ctx OrderBy.stable 1 (Nat.le_refl 1) a).symm.trans hone)
  · intro h ctx order k hk a
    exact (hlists ctx order k hk a).trans (and_congr_right_iff.mpr (h a))

end

/-! ### The filter of each query -/

theorem searched_iff (hs : s ≠ "") {texts : List String} : Searched collation (some s) texts ↔
    ∃ text ∈ texts, collation.ilike text ("%" ++ s ++ "%") = some true := by
  simp [Searched, hs]

theorem Db.Coherent.category (hdb : db.Coherent) {i : Item} (hi : i ∈ db.items) :
    ∃ c, db.categories.get? i.categoryId = some c := by
  obtain ⟨-, -, hcategory, -⟩ := Item.constraints_iff.mp (hdb.items i hi)
  exact Option.ne_none_iff_exists'.mp (hcategory i.categoryId rfl)

theorem itemsSearch_iff : ItemsSearch collation s ↔ ∀ db, Db.Coherent db → ∀ i ∈ db.items,
    (Searched collation (some s) [i.name, i.serialNo] ↔ Contained collation s [i.name, i.serialNo]) := by
  refine forall₂_congr fun db hdb => ?_
  refine lists_exactly_iff (q := itemQuery collation none none none (some s) db) (by simp) fun i hi => ?_
  obtain ⟨c, hc⟩ := hdb.category hi
  simp [itemQuery, hc, Selects]

theorem clientAvailableSearch_iff : ClientAvailableSearch collation s ↔ ∀ db, Db.Coherent db → ∀ i ∈ db.items,
    i.ownerType = .client ∧ i.status = .available →
      (Searched collation (some s) [i.name, i.serialNo] ↔ Contained collation s [i.name, i.serialNo]) := by
  refine forall₂_congr fun db hdb => ?_
  have hlists : ∀ i, (∃ row ∈ (clientAvailableQuery collation none (some s) db).rows db.items, row.item = i) ↔
      i ∈ db.items ∧ (i.ownerType = .client ∧ i.status = .available) ∧
        Searched collation (some s) [i.name, i.serialNo] := fun i => by
    refine (Query.exists_mem_rows _).trans (and_congr_right fun hi => ?_)
    obtain ⟨c, hc⟩ := hdb.category hi
    simp [clientAvailableQuery, hc, Selects, and_assoc]
  simp only [runs_listClientAvailable, and_true, forall_eq, OrderBy.mem_sort, hlists, and_congr_right_iff]
  exact ⟨fun h => h Sample.ctx OrderBy.stable, fun h _ _ => h⟩

theorem requestsSearch_iff : RequestsSearch collation s ↔ ∀ db, Db.Coherent db → ∀ r ∈ db.requests,
    ∀ u ∈ db.users.get? r.requesterId,
      (Searched collation (some s) [u.name, u.email] ↔ Contained collation s [u.name, u.email]) := by
  refine forall₂_congr fun db hdb => ?_
  have hjoined : ∀ r ∈ db.requests, ∃ c u, db.categories.get? r.categoryId = some c ∧
      db.users.get? r.requesterId = some u := fun r hr => by
    obtain ⟨-, hrequester, hcategory, -⟩ := Request.constraints_iff.mp (hdb.requests r hr)
    obtain ⟨c, hc⟩ := Option.ne_none_iff_exists'.mp (hcategory r.categoryId rfl)
    obtain ⟨u, hu⟩ := Option.ne_none_iff_exists'.mp (hrequester r.requesterId rfl)
    exact ⟨c, u, hc, hu⟩
  have hfilter : ∀ r ∈ db.requests, ((requestQuery collation none none none none none (some s) db).select r ≠
      none ↔ ∃ u ∈ db.users.get? r.requesterId, Searched collation (some s) [u.name, u.email]) := fun r hr => by
    obtain ⟨c, u, hc, hu⟩ := hjoined r hr
    simp [requestQuery, hc, hu, Selects]
  refine (lists_exactly_iff (by simp) hfilter).trans (forall₂_congr fun r hr => ?_)
  obtain ⟨c, u, hc, hu⟩ := hjoined r hr
  simp [hu]

theorem usersSearch_iff : UsersSearch collation s ↔ ∀ db, Db.Coherent db → ∀ u ∈ db.users,
    (Searched collation (some s) [u.name, u.email] ↔ Contained collation s [u.name, u.email]) := by
  refine forall₂_congr fun db hdb => ?_
  refine lists_exactly_iff (q := userQuery collation none none (some s) db) (by simp) fun u hu => ?_
  simp [userQuery, Selects]

/-! ### Searchable texts -/

theorem Searchable.searched_iff (h : Searchable s) (hs : s ≠ "") {texts : List String}
    (hfits : ∀ text ∈ texts, IsVarchar text) :
    Searched collation (some s) texts ↔ Contained collation s texts := by
  rw [AssetPilot.searched_iff hs]
  refine exists_congr fun text => and_congr_right fun htext => ?_
  obtain ⟨hnul, hlength⟩ := hfits text htext
  rcases h with hliteral | hmatch
  · exact collation.ilike_iff_contains hliteral
  · refine iff_of_false (fun h => hmatch ⟨fun hmem => ?_, ?_⟩) fun h => hmatch ⟨fun hmem => ?_, ?_⟩
    · exact hnul (collation.nul_mem_of_ilike hmem h)
    · exact (collation.length_le_of_ilike h).trans hlength
    · exact hnul (collation.nul_mem_of_contains hmem h)
    · exact (collation.length_le_of_contains h).trans hlength

theorem Db.Coherent.item_fits (hdb : db.Coherent) {i : Item} (hi : i ∈ db.items) :
    ∀ text ∈ [i.name, i.serialNo], IsVarchar text := by
  obtain ⟨-, ⟨hname, hserial, -⟩, -⟩ := Item.constraints_iff.mp (hdb.items i hi)
  simp [hname, hserial]

theorem Db.Coherent.user_fits (hdb : db.Coherent) {u : User} (hu : u ∈ db.users) :
    ∀ text ∈ [u.name, u.email], IsVarchar text := by
  obtain ⟨-, ⟨hname, hemail, -⟩, -⟩ := User.constraints_iff.mp (hdb.users u hu)
  simp [hname, hemail]

/-! ### Other texts -/

theorem not_searched_iff (h : ¬ Searchable s) (hs : s ≠ "") {text : String} (htext : Literal text) :
    ¬ (Searched collation (some s) [shortestMatch s, text] ↔ Contained collation s [shortestMatch s, text]) := by
  rw [Searchable, not_or] at h
  intro hiff
  have hfound : Searched collation (some s) [shortestMatch s, text] :=
    (searched_iff hs).mpr ⟨_, List.mem_cons_self, collation.ilike_shortestMatch⟩
  obtain ⟨x, hx, hcontains⟩ := hiff.mp hfound
  rcases List.mem_pair.mp hx with rfl | rfl
  · exact collation.not_contains_shortestMatch h.1 hcontains
  · exact h.1 (hcontains.literal htext)

namespace Sample

/-- A user and a client's device of the name `text`. -/
def named (text : String) : Db where
  categories := ⟨[laptops], List.nodup_singleton _⟩
  users := ⟨[{ employee 1 "one@example.com" with name := text }], List.nodup_singleton _⟩
  items := ⟨[{ device 1 "S-1" .available none with
    name := text
    ownerType := .client
    clientName := some "Client" }], List.nodup_singleton _⟩
  requests := ⟨[request 1 1 .pendingItApproval none], List.nodup_singleton _⟩

theorem named_coherent {text : String} (h : IsVarchar text) : (named text).Coherent where
  users := by
    intro u hu
    obtain rfl := List.mem_singleton.mp hu
    have hemail : IsVarchar "one@example.com" := by decide
    have hhash : ∀ x ∈ some "hash", IsVarchar x := by decide
    refine constraintCheck_ok.mpr ⟨⟨h, hemail, hhash⟩, Option.some_ne_none _, ?_, fun _ hm => nomatch hm⟩
    intro x hx hne
    exact absurd (congrArg User.id (List.mem_singleton.mp hx)) hne
  items := by
    intro i hi
    obtain rfl := List.mem_singleton.mp hi
    have hserial : IsVarchar "S-1" := by decide
    have hclient : ∀ x ∈ some "Client", IsVarchar x := by decide
    have hcategory : (named text).categories.References (some 1) := Table.references_of_get? (r := laptops) rfl
    refine constraintCheck_ok.mpr ⟨⟨h, hserial, hclient⟩, ?_, hcategory, fun _ hm => nomatch hm⟩
    intro x hx hne
    exact absurd (congrArg Item.id (List.mem_singleton.mp hx)) hne
  requests := by
    intro r hr
    obtain rfl := List.mem_singleton.mp hr
    have hcategory : (named text).categories.References (some 1) := Table.references_of_get? (r := laptops) rfl
    have hrequester : (named text).users.References (some 1) := Table.references_of_get? (r := { employee 1
      "one@example.com" with name := text }) rfl
    refine constraintCheck_ok.mpr ⟨trivial, ?_, hrequester, hcategory, by simp [Table.References, request]⟩
    intro x hx hne
    exact absurd (congrArg Request.id (List.mem_singleton.mp hx)) hne
  supportRequests := by simp [named, Table.empty]
  extensionRequests := by simp [named, Table.empty]

end Sample

/-- **A search is for a substring**, in each of the four lists, exactly where what is typed is searchable. -/
theorem search_iff (collation : Collation) (hs : s ≠ "") :
    (ItemsSearch collation s ↔ Searchable s) ∧ (ClientAvailableSearch collation s ↔ Searchable s) ∧
      (RequestsSearch collation s ↔ Searchable s) ∧ (UsersSearch collation s ↔ Searchable s) := by
  -- the store in which a device and a user have the name that is found, where one fits the columns
  have hstore : ¬ Searchable s → (Sample.named (shortestMatch s)).Coherent := fun h =>
    Sample.named_coherent (not_not.mp (not_or.mp h).2)
  have hserial : Literal "S-1" := by decide
  have hemail : Literal "one@example.com" := by decide
  rw [itemsSearch_iff, clientAvailableSearch_iff, requestsSearch_iff, usersSearch_iff]
  refine ⟨⟨fun hlaw => ?_, fun h db hdb i hi => h.searched_iff hs (hdb.item_fits hi)⟩,
    ⟨fun hlaw => ?_, fun h db hdb i hi _ => h.searched_iff hs (hdb.item_fits hi)⟩,
    ⟨fun hlaw => ?_, fun h db hdb r _ u hu => h.searched_iff hs (hdb.user_fits (Table.get?_mem hu))⟩,
    ⟨fun hlaw => ?_, fun h db hdb u hu => h.searched_iff hs (hdb.user_fits hu)⟩⟩
  · by_contra h
    exact not_searched_iff h hs hserial (hlaw _ (hstore h) _ List.mem_cons_self)
  · by_contra h
    exact not_searched_iff h hs hserial (hlaw _ (hstore h) _ List.mem_cons_self ⟨rfl, rfl⟩)
  · by_contra h
    exact not_searched_iff h hs hemail (hlaw _ (hstore h) _ List.mem_cons_self _ rfl)
  · by_contra h
    exact not_searched_iff h hs hemail (hlaw _ (hstore h) _ List.mem_cons_self)

/-- Devices are found by a part of their name. -/
theorem search_iff_lap : ItemsSearch Sample.collation "lap" :=
  (search_iff Sample.collation (by decide : "lap" ≠ "")).1.mpr (by decide)

/-- A search for a percent sign finds the laptop. -/
theorem percent_not_search : ¬ ItemsSearch Sample.collation "%" ∧ ¬ ClientAvailableSearch Sample.collation "%" ∧
    ¬ RequestsSearch Sample.collation "%" ∧ ¬ UsersSearch Sample.collation "%" := by
  have hstore : (Sample.named "Laptop").Coherent := Sample.named_coherent (by decide)
  rw [itemsSearch_iff, clientAvailableSearch_iff, requestsSearch_iff, usersSearch_iff]
  refine ⟨fun h => ?_, fun h => ?_, fun h => ?_, fun h => ?_⟩
  · exact absurd (h _ hstore _ List.mem_cons_self) (by decide)
  · exact absurd (h _ hstore _ List.mem_cons_self ⟨rfl, rfl⟩) (by decide)
  · exact absurd (h _ hstore _ List.mem_cons_self _ rfl) (by decide)
  · exact absurd (h _ hstore _ List.mem_cons_self) (by decide)

end AssetPilot
