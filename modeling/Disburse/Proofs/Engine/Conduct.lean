import Disburse.Proofs.Concurrency.Conduct
import Disburse.Proofs.Engine.Copies

namespace Disburse.Engine

/-- An execution that is started, or a failure that listeners are told. -/
inductive Notice where
  | execution (id : PayoutId)
  | failure (e : Event)
  deriving DecidableEq

/-- The event of a failure that was booked. -/
def failureEvent (row : Payout) : Event :=
  .failed row.id row.recipient (row.failureReason.getD "")

namespace Notice

def id : Notice → PayoutId
  | .execution id => id
  | .failure e => e.id

@[simp] theorem id_execution (payout : PayoutId) : (execution payout).id = payout :=
  rfl

@[simp] theorem id_failure (e : Event) : (failure e).id = e.id :=
  rfl

def given? : Request → Option Notice
  | .dispatch id => some (.execution id)
  | .publish (.failed id recipient reason) => some (.failure (.failed id recipient reason))
  | _ => none

/-- What has to be given notice of behind a won swap: the way into processing, and a failure. -/
def ofWrite? (p : Payout) (expected : Status) : Option Notice :=
  match p.status with
  | .pending => none
  | .processing => if expected = .processing then none else some (.execution p.id)
  | .completed => none
  | .retryScheduled => some (.failure (failureEvent p))
  | .failed => some (.failure (failureEvent p))

/-- The notice that an exchange calls for. -/
def due? : Exchange interface → Option Notice
  | ⟨.store (.saveIf p expected), .ok true⟩ => ofWrite? p expected
  | _ => none

end Notice

/-- The notice that the last exchange calls for. -/
def owed (past : List (Exchange interface)) : Option Notice :=
  past.getLast?.bind Notice.due?

def announced? : Request → Option Event
  | .publish (.processed id recipient amount transactionRef) =>
    some (.processed id recipient amount transactionRef)
  | _ => none

def announcements (past : List (Exchange interface)) : List Event :=
  past.filterMap fun x => announced? x.request

def isSubmission (x : Exchange interface) : Bool :=
  match x.request with
  | .transfer (.submit _) => true
  | _ => false

/-- A record that some answer has shown. -/
def Shown (past : List (Exchange interface)) (p : Payout) : Prop :=
  ∃ x ∈ past, p ∈ recordsIn x

def submission (request : TransferRequest) (hash : String) : Exchange interface :=
  ⟨.transfer (.submit request), .ok hash⟩

def confirmation (hash : String) (receipt : TransferReceipt) : Exchange interface :=
  ⟨.transfer (.awaitConfirmation hash), .ok receipt⟩

/-- A look-up that found a transfer confirmed. -/
def landing (hash : String) (ledger : Int64) : Exchange interface :=
  ⟨.transfer (.lookup hash), .ok (.success ledger)⟩

def wonSwap (p : Payout) (expected : Status) : Exchange interface :=
  ⟨.store (.saveIf p expected), .ok true⟩

/-- A record has the origin of a record that was shown, and its hash too, unless that is the hash
of a submission for the record that was shown. -/
structure Derives (past : List (Exchange interface)) (q p : Payout) : Prop where
  shown : Shown past q
  origin : q.SameOrigin p
  hash : ∀ hash, p.submittedHash = some hash →
    q.submittedHash = some hash ∨ submission (requestOf q) hash ∈ past

/-- The success of a payout's transfer: its own submission was confirmed, or the hash that was on
its record was looked up. -/
def Confirmed (past : List (Exchange interface)) (id : PayoutId) (transactionRef : String)
    (ledger : Int64) : Prop :=
  (∃ q hash, Shown past q ∧ q.id = id ∧ submission (requestOf q) hash ∈ past ∧
    confirmation hash ⟨transactionRef, ledger⟩ ∈ past) ∨
  ∃ q, Shown past q ∧ q.id = id ∧ q.submittedHash = some transactionRef ∧
    landing transactionRef ledger ∈ past

/-- What a thread may write in the place of a record. -/
structure Swappable (past : List (Exchange interface)) (p : Payout) (expected : Status) :
    Prop where
  derives : ∃ q, Derives past q p
  completed : p.status = .completed → ∃ transactionRef ledger,
    p.transactionRef = some transactionRef ∧ p.ledgerRef = some ledger ∧
      Confirmed past p.id transactionRef ledger
  failed : p.status = .retryScheduled ∨ p.status = .failed → expected = .processing

/-- What a completion is announced by: a record that was shown completed, or that was completed by
the thread itself, with the transaction that the thread has seen succeed. -/
def Announceable (past : List (Exchange interface)) (e : Event) (transactionRef : String) : Prop :=
  ∃ q, (Shown past q ∨ ∃ expected, wonSwap q expected ∈ past) ∧ q.status = .completed ∧
    q.transactionRef = some transactionRef ∧
    e = .processed q.id q.recipient q.amount transactionRef ∧
    ∃ ledger, Confirmed past q.id transactionRef ledger

/-- The payout that an operation executes. -/
def Operation.executed? : Operation → Option PayoutId
  | .execute id => some id
  | .dispatch id => some id
  | _ => none

/-- Services that send payouts into processing. -/
def Operation.dispatches : Operation → Bool
  | .claim .. => true
  | .retry _ => true
  | .sweep _ => true
  | .create _ => false
  | .execute _ => false
  | .dispatch _ => false
  | .recover _ => false
  | .recordFailure .. => false

/-- The requests of an operation that are in order, as far as the record and the ledger are
concerned. -/
def Proper (op : Operation) (past : List (Exchange interface)) : Request → Prop
  | .store (.create p) => p.amount.IsPositive ∧ p.status = .pending ∧ p.submittedHash = none
  | .store (.save _) => False
  | .store (.saveIf p expected) => Swappable past p expected
  | .transfer (.submit request) =>
    (∃ q, op.executed? = some q.id ∧ ⟨.store (.get q.id), .ok (some q)⟩ ∈ past ∧
      q.status = .processing ∧ request = requestOf q) ∧ ∀ x ∈ past, isSubmission x = false
  | .publish (.processed id recipient amount transactionRef) =>
    Announceable past (.processed id recipient amount transactionRef) transactionRef ∧
      ∀ e ∈ announcements past, e.id ≠ id
  | .dispatch _ => op.dispatches
  | _ => True

/-- What answers can be counted on for. -/
def Faithful : Exchange interface → Prop
  | ⟨.store (.get id), .ok (some p)⟩ => p.id = id
  | ⟨.store (.findStale ..), .ok ps⟩ => (ps.map Payout.id).Nodup
  | _ => True

/-- Notices are given directly behind the writes that call for them, and nothing else is asked
before. -/
def conduct (op : Operation) : Code interface where
  faithful := Faithful
  allows past r := Notice.given? r = owed past ∧ Proper op past r

theorem faithful_of_answer {b : Behaviour} {r : Request} {s s' : MemoryStore}
    {a : interface.Answer r} (h : b.answer r s = some (a, s')) : Faithful ⟨r, a⟩ := by
  unfold Faithful
  split
  · rename_i id p heq
    cases heq
    obtain ⟨rfl, ha | ⟨e, ha⟩⟩ := Behaviour.answer_lookup rfl rfl h
    · exact MemoryStore.find?_id (Except.ok.inj ha).symm
    · cases ha
  · rename_i status before limit ps heq
    cases heq
    obtain ⟨rfl, ⟨kept, -, ha⟩ | ⟨e, ha⟩⟩ := Behaviour.answer_read rfl h
    · obtain rfl : ps = kept.findStale status before limit := Except.ok.inj ha
      exact MemoryStore.findStale_ids_nodup
    · cases ha
  · trivial

section Supervision

variable {C : Code interface} {policy : RetryPolicy} {id : PayoutId}

theorem heeds_supervise_iff {Q : Outcome Unit → List (Exchange interface) → Prop}
    {past : List (Exchange interface)} :
    C.Heeds (supervise policy id) Q past ↔ C.Heeds (execute policy id) (fun o past' =>
      match o with
      | .error .crash =>
        C.Heeds (recordFailure policy id "execution task panicked") (fun o past'' =>
          match o with
          | .error .crash => Q (.error .crash) past''
          | _ => Q (.ok ()) past'') past'
      | _ => Q (.ok ()) past') past := by
  refine Code.obeys_bind.trans ?_
  constructor
  all_goals
    refine fun h => Code.Obeys.imp h ?_
    rintro ((e | _) | _) past' h'
    · exact h'
    · first
        | refine Code.Obeys.imp (Code.obeys_bind.mp h') ?_
        | refine Code.obeys_bind.mpr (Code.Obeys.imp h' ?_)
      rintro ((e | _) | _) past'' h''
      all_goals exact h''
    · exact h'

theorem minds_supervise {R : Unit → Prop} {S : Option Status → Prop}
    (hexecute : C.Minds (execute policy id) R)
    (hrecord : C.Minds (recordFailure policy id "execution task panicked") S) :
    C.Minds (supervise policy id) fun _ => True := by
  intro past
  rw [heeds_supervise_iff]
  refine (hexecute past).imp ?_
  rintro ((e | _) | _) past' -
  · exact fun _ _ => trivial
  · refine (hrecord past').imp ?_
    rintro ((e | _) | _) past'' -
    all_goals exact fun _ _ => trivial
  · exact fun _ _ => trivial

end Supervision

section Mono

variable {past past' : List (Exchange interface)} {p q : Payout}

theorem Shown.mono (h : Shown past p) (hpast : past ⊆ past') : Shown past' p := by
  obtain ⟨x, hx, hp⟩ := h
  exact ⟨x, hpast hx, hp⟩

theorem Derives.mono (h : Derives past q p) (hpast : past ⊆ past') : Derives past' q p where
  shown := h.shown.mono hpast
  origin := h.origin
  hash hash hp := (h.hash hash hp).imp_right fun hmem => hpast hmem

theorem Confirmed.mono {id : PayoutId} {transactionRef : String} {ledger : Int64}
    (h : Confirmed past id transactionRef ledger) (hpast : past ⊆ past') :
    Confirmed past' id transactionRef ledger := by
  rcases h with ⟨q, hash, hq, hid, hsubmit, hconfirm⟩ | ⟨q, hq, hid, hhash, hland⟩
  · exact .inl ⟨q, hash, hq.mono hpast, hid, hpast hsubmit, hpast hconfirm⟩
  · exact .inr ⟨q, hq.mono hpast, hid, hhash, hpast hland⟩

theorem Swappable.mono {expected : Status} (h : Swappable past p expected)
    (hpast : past ⊆ past') : Swappable past' p expected where
  derives := h.derives.imp fun _ hq => hq.mono hpast
  completed hp := by
    obtain ⟨transactionRef, ledger, href, hledger, hconfirmed⟩ := h.completed hp
    exact ⟨transactionRef, ledger, href, hledger, hconfirmed.mono hpast⟩
  failed := h.failed

end Mono

theorem Derives.of_shown {past : List (Exchange interface)} {p : Payout} (h : Shown past p) :
    Derives past p p where
  shown := h
  origin := .refl p
  hash _ hp := .inl hp

theorem Derives.of_sameOrigin {past : List (Exchange interface)} {q p p' : Payout}
    (h : Derives past q p) (horigin : p.SameOrigin p')
    (hhash : p'.submittedHash = p.submittedHash ∨ p'.submittedHash = none) :
    Derives past q p' where
  shown := h.shown
  origin := h.origin.trans horigin
  hash hash hp := by
    rcases hhash with heq | hnone
    · exact h.hash hash (heq ▸ hp)
    · rw [hnone] at hp
      cases hp

@[simp] theorem owed_nil : owed [] = none :=
  rfl

@[simp] theorem owed_append (past : List (Exchange interface)) (x : Exchange interface) :
    owed (past ++ [x]) = Notice.due? x := by
  simp [owed]

@[simp] theorem announcements_append (past xs : List (Exchange interface)) :
    announcements (past ++ xs) = announcements past ++ announcements xs := by
  simp [announcements]

@[simp] theorem announcements_nil : announcements [] = [] :=
  rfl

@[simp] theorem announcements_singleton (x : Exchange interface) :
    announcements [x] = (announced? x.request).toList := by
  cases h : announced? x.request <;> simp [announcements, h]

/-- Notices are given exactly where they are due, with at most one outstanding. -/
theorem filterMap_due?_eq {op : Operation} {past : List (Exchange interface)}
    (h : ∀ before x, before ++ [x] <+: past → (conduct op).allows before x.request) :
    past.filterMap Notice.due? =
      past.filterMap (fun x => Notice.given? x.request) ++ (owed past).toList := by
  induction past using List.reverseRecOn with
  | nil => rfl
  | append_singleton past x ih =>
      have hgiven : Notice.given? x.request = owed past := (h past x (List.prefix_refl _)).1
      rw [List.filterMap_append, List.filterMap_append,
        ih fun before y hy => h before y (hy.trans (List.prefix_append ..)), owed_append]
      cases hdue : Notice.due? x <;> cases howed : owed past <;> simp [hgiven, hdue, howed]

end Disburse.Engine
