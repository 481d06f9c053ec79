import AssetPilot.Custody.Refinement

/-!
# Stores and their runs

What the database guarantees of its requests (`Db.Integral`), what the services make of it
(`Db.Settled`: only an assigned request carries a device), and the rule by which a law of custody becomes
an invariant of the runs (`law_of_run`). The last section is a small store for worked runs.
-/

namespace AssetPilot

open Relational Custody System

variable {db db' : Db} {e : Event}

/-- Every stored request satisfies the keys and indexes of its table. -/
def Db.Integral (db : Db) : Prop := ∀ r ∈ db.requests.rows, db.RequestIntegral r

instance (db : Db) : Decidable db.Integral := inferInstanceAs (Decidable (∀ r ∈ _, _))

theorem Db.Integral.sound (h : db.Integral) : Sound db.custody where
  unique {p q x y d} hp hq hx hy hs hopen := by
    obtain ⟨r, hr, rfl⟩ := custody_claim_eq_some.mp hp
    obtain ⟨s, hs', rfl⟩ := custody_claim_eq_some.mp hq
    by_contra hne
    have hstatus : r.status = s.status := hs
    have hrid : r.id = p := Table.get?_key hr
    have hsid : s.id = q := Table.get?_key hs'
    refine (h s (Table.get?_mem hs')).1 r (Table.get?_mem hr) (hrid ▸ hsid ▸ hne) ⟨?_, ?_, ?_, hs⟩
    · exact activeStatus_iff.mpr (hstatus ▸ hopen)
    · exact fun hnone => nomatch hnone.symm.trans hy
    · exact hx.trans hy.symm
  known {p x d} hp hx := by
    obtain ⟨r, hr, rfl⟩ := custody_claim_eq_some.mp hp
    have hitem := (h r (Table.get?_mem hr)).2.2.2.1 d hx
    exact fun hnone => hitem (Option.map_eq_none_iff.mp hnone)

/-- The ticket is tied to a request that has a device, if to any. -/
def Db.TicketTied (db : Db) (t : SupportRequest) : Prop :=
  t.requestId = none ∨ ∃ r ∈ db.requests.rows, t.requestId = some r.id ∧ r.assignedItemId ≠ none

instance (db : Db) (t : SupportRequest) : Decidable (db.TicketTied t) :=
  inferInstanceAs (Decidable (_ ∨ ∃ r ∈ _, _))

theorem Db.TicketTied.claim {t : SupportRequest} {q : UUID} (h : db.TicketTied t)
    (hq : t.requestId = some q) : ∃ x, db.custody.claim q = some x ∧ x.device ≠ none := by
  rcases h with hnone | ⟨r, hr, hid, hdevice⟩
  · exact nomatch hnone.symm.trans hq
  · obtain rfl := Option.some.inj (hq.symm.trans hid)
    exact ⟨r.claim, custody_claim (Table.mem_iff_get?.mp hr), hdevice⟩

/-- An integral store where an open request with a device is assigned, and tickets are tied to requests
that have a device. -/
structure Db.Settled (db : Db) : Prop where
  integral : db.Integral
  assigned : ∀ r ∈ db.requests.rows, r.assignedItemId ≠ none → r.status ∉ _TERMINAL_STATUSES →
    r.status = .assigned
  tied : ∀ t ∈ db.supportRequests.rows, db.TicketTied t

instance (db : Db) : Decidable db.Settled :=
  decidable_of_iff (db.Integral ∧
    (∀ r ∈ db.requests.rows, r.assignedItemId ≠ none → r.status ∉ _TERMINAL_STATUSES →
      r.status = .assigned) ∧
    ∀ t ∈ db.supportRequests.rows, db.TicketTied t)
    ⟨fun ⟨h₁, h₂, h₃⟩ => ⟨h₁, h₂, h₃⟩, fun h => ⟨h.integral, h.assigned, h.tied⟩⟩

theorem Db.Settled.carried (h : db.Settled) : Carried db.custody where
  assigned {q x} hq hx hopen := by
    obtain ⟨r, hr, rfl⟩ := custody_claim_eq_some.mp hq
    exact h.assigned r (Table.get?_mem hr) hx fun hmem => hopen (mem_TERMINAL_STATUSES.mp hmem)
  tied {p z q} hp hz := by
    obtain ⟨t, ht, rfl⟩ := custody_ticket_eq_some.mp hp
    exact (h.tied t (Table.get?_mem ht)).claim hz

/-- The assumption on the employees' side: a ticket is tied to a request that has a device. -/
def TicketsTied (db : Db) : Event → Prop
  | .portal _ (.fileTicket ticket) => db.TicketTied ticket
  | _ => True

/-! ### Runs -/

/-- **The law rule**: what every allowed act keeps of custody holds in every state a run reaches. -/
theorem law_of_run {L : State UUID UUID UUID UUID → Prop} {ok : Db → Event → Prop}
    (hstep : ∀ {db e a c}, Sound db.custody → L db.custody → ok db e → e.Performs db a →
      Custody.Step db.custody a c → L c)
    (run : Run Step ok db db') (hsound : Sound db.custody) (h : L db.custody) :
    Sound db'.custody ∧ L db'.custody := by
  refine run.inv (P := fun db => Sound db.custody ∧ L db.custody) (fun db e db' hlaw allowed hs => ?_)
    ⟨hsound, h⟩
  rcases hs.cases with rfl | hcommits
  · exact hlaw
  · obtain ⟨a, hperforms, hcustody⟩ := Event.refines hcommits
    exact ⟨hlaw.1.step hcustody, hstep hlaw.1 hlaw.2 allowed hperforms hcustody⟩

theorem TicketsTied.ties {a : CustodyAct} (h : TicketsTied db e) (ha : e.Performs db a) :
    a.Ties db.custody := by
  cases ha with
  | service ha => cases ha <;> trivial
  | portal ha =>
    cases ha with
    | fileTicket => exact fun q hq => h.claim hq
    | _ => trivial

theorem carried_of_step (hlaw : Sound db.custody ∧ Carried db.custody) (hok : TicketsTied db e)
    (h : e.Commits db db') : Sound db'.custody ∧ Carried db'.custody := by
  obtain ⟨a, hperforms, hcustody⟩ := Event.refines h
  exact ⟨hlaw.1.step hcustody, hlaw.2.step hcustody (hok.ties hperforms)⟩

/-- **The rule for laws of settled stores**: what every allowed event keeps where only assigned requests
carry a device holds in every state a run from a settled store reaches, and so does that. -/
theorem inv_of_run {P : Db → Prop} {ok : Db → Event → Prop} (hties : ∀ {db e}, ok db e → TicketsTied db e)
    (hstep : ∀ {db e db'}, Carried db.custody → ok db e → e.Commits db db' → P db → P db')
    (h : db.Settled) (run : Run Step ok db db') (hP : P db) : Carried db'.custody ∧ P db' := by
  have key : (Sound db'.custody ∧ Carried db'.custody) ∧ P db' := by
    refine run.inv (P := fun s => (Sound s.custody ∧ Carried s.custody) ∧ P s) ?_
      ⟨⟨h.integral.sound, h.carried⟩, hP⟩
    intro s e s' hs hok hstep'
    rcases hstep'.cases with rfl | hcommits
    · exact hs
    · exact ⟨carried_of_step hs.1 (hties hok) hcommits, hstep hs.1.2 hok hcommits hs.2⟩
  exact ⟨key.1.2, key.2⟩

/-- **The rule of exact conditions**: where a committed event keeps the law `P` exactly when it meets the
condition `keeps`, a run of events that meet it keeps `P`, and the next event that does not breaks it. -/
theorem exact_of_run {I P : Db → Prop} {allowed ok keeps : Db → Event → Prop}
    (hallowed : ∀ {db e}, allowed db e → ok db e ∧ keeps db e)
    (hinv : ∀ {db e db'}, I db → ok db e → e.Commits db db' → I db')
    (hstep : ∀ {db e db'}, I db → ok db e → e.Commits db db' → P db → (P db' ↔ keeps db e))
    (hI : I db) (hP : P db) (run : Run Step allowed db db') :
    I db' ∧ P db' ∧ ∀ e db'', ok db' e → e.Commits db' db'' → (P db'' ↔ keeps db' e) := by
  have key : I db' ∧ P db' := by
    refine run.inv (P := fun s => I s ∧ P s) (fun s e s' hs hok hstep' => ?_) ⟨hI, hP⟩
    rcases hstep'.cases with rfl | hcommits
    · exact hs
    · obtain ⟨hok, hkeeps⟩ := hallowed hok
      exact ⟨hinv hs.1 hok hcommits, (hstep hs.1 hok hcommits hs.2).mpr hkeeps⟩
  exact ⟨key.1, key.2, fun e db'' hok hcommits => hstep key.1 hok hcommits key.2⟩

theorem sound_of_commits (hsound : Sound db.custody) (h : e.Commits db db') : Sound db'.custody := by
  obtain ⟨a, -, hcustody⟩ := Event.refines h
  exact hsound.step hcustody

/-- **Only assigned requests carry a device**, in every state that a run reaches. -/
theorem carried_of_run (h : db.Settled) (run : Run Step TicketsTied db db') :
    Sound db'.custody ∧ Carried db'.custody := by
  refine run.inv (P := fun s => Sound s.custody ∧ Carried s.custody) (fun s e s' hs hok hstep => ?_)
    ⟨h.integral.sound, h.carried⟩
  rcases hstep.cases with rfl | hcommits
  · exact hs
  · exact carried_of_step hs hok hcommits

theorem Custody.Carried.not_assigned (h : Carried db.custody) {r : Request} (hr : db.requests.get? r.id = some r)
    (hopen : r.status ∉ _TERMINAL_STATUSES) (hne : r.status ≠ .assigned) : r.assignedItemId = none := by
  by_contra hdevice
  exact hne (h.assigned (Db.custody_claim hr) hdevice fun hended => hopen (mem_TERMINAL_STATUSES.mpr hended))

theorem Custody.Carried.tied_device (h : Carried db.custody) {t : SupportRequest} {r : Request} {ticketId : UUID}
    (ht : db.supportRequests.get? ticketId = some t) (htied : t.requestId = some r.id)
    (hr : db.requests.get? r.id = some r) : r.assignedItemId ≠ none := by
  obtain ⟨x, hx, hdevice⟩ := h.tied (Db.custody_ticket ht) htied
  obtain rfl := Option.some.inj ((Db.custody_claim hr).symm.trans hx)
  exact hdevice

/-! ### A small store -/

namespace Sample

/-- A call at time 5 whose new rows have the keys 100, 101, … -/
def ctx : Ctx where
  clock _ := 5
  txTime := 5
  uuid4 k := BitVec.ofNat 128 (100 + k)
  settings := ⟨"asset-pilot", 30, 60⟩
  hashpw password := some password
  jwtEncode payload := payload.sub

def laptops : ItemCategory where
  id := 1
  name := "Laptop"

def employee (id : UUID) (email : String) : User where
  id := id
  name := "Employee"
  email := email
  passwordHash := some "hash"

def device (id : UUID) (serialNo : String) (status : DeviceStatus) (currentOwnerId : Option UUID) : Item where
  id := id
  name := "Laptop"
  serialNo := serialNo
  categoryId := 1
  status := status
  currentOwnerId := currentOwnerId
  qrCodeToken := id

def request (id requesterId : UUID) (status : RequestStatus) (assignedItemId : Option UUID) : Request where
  id := id
  requesterId := requesterId
  categoryId := 1
  assignedItemId := assignedItemId
  requestedFrom := 0
  requestedTo := 10
  assignedFrom := some 0
  assignedTo := some 10
  status := status

def ticket (id itemId requesterId requestId : UUID) (type : SupportType) : SupportRequest where
  id := id
  itemId := itemId
  requesterId := requesterId
  requestId := some requestId
  type := type
  description := "broken"

/-- Employee 1 waits for a laptop, employee 2 has laptop 2 and an open ticket about it. -/
def store : Db where
  categories := ⟨[laptops], by decide⟩
  users := ⟨[employee 1 "one@example.com", employee 2 "two@example.com", employee 9 "it@example.com"],
    by decide⟩
  items := ⟨[device 1 "S-1" .available none, device 2 "S-2" .assigned (some 2)], by decide⟩
  requests := ⟨[request 1 1 .pendingItApproval none, request 2 2 .assigned (some 2)], by decide⟩
  supportRequests := ⟨[ticket 1 2 2 2 .damage], by decide⟩

/-- The administrator's call. -/
def call (op : Op) : Event := .service ctx op

/-- The store after the events, in order. -/
def after (events : List Event) : Db := events.foldl (fun db e => e.exec db) store

end Sample

end AssetPilot
