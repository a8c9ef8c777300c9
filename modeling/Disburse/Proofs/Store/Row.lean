import Disburse.Proofs.Decimal.Reader
import Disburse.Proofs.Payout.Id
import Disburse.Proofs.Payout.Times
import Disburse.Store.Cell

namespace Disburse

namespace Payout

/-- The payout with all of its times in whole milliseconds. -/
def inMilliseconds (p : Payout) : Payout :=
  { p with
    nextRetryAt := p.nextRetryAt.map Instant.inMilliseconds
    processedAt := p.processedAt.map Instant.inMilliseconds
    claimedAt := p.claimedAt.map Instant.inMilliseconds
    createdAt := p.createdAt.inMilliseconds
    updatedAt := p.updatedAt.inMilliseconds }

/-- A payout with the state of another version of it. -/
def withState (p q : Payout) : Payout :=
  { p with
    status := q.status
    submittedHash := q.submittedHash
    transactionRef := q.transactionRef
    ledgerRef := q.ledgerRef
    failureReason := q.failureReason
    retryCount := q.retryCount
    maxRetries := q.maxRetries
    nextRetryAt := q.nextRetryAt
    processedAt := q.processedAt
    claimedAt := q.claimedAt
    updatedAt := q.updatedAt }

end Payout

namespace PayoutRow

variable {r : PayoutRow Int64} {p q : Payout}

theorem toInt_ofTime (t : Instant) : (ofTime t).toInt = t.toMilliseconds := by
  obtain ⟨hlow, hhigh⟩ := t.toMilliseconds_bounds
  exact Int64.toInt_ofInt_of_le (by omega) (by omega)

theorem toTime_ofTime {t : Instant} (h : t.HasMillisecond) :
    toTime (ofTime t) = .ok t.inMilliseconds := by
  rw [toTime, toInt_ofTime, Instant.ofMilliseconds?_toMilliseconds h]

theorem toTime_ofTime_of_not_hasMillisecond {t : Instant} (h : ¬ t.HasMillisecond) :
    toTime (ofTime t) =
      .error (.validation s!"stored timestamp out of range: {t.toMilliseconds}") := by
  rw [toTime, toInt_ofTime, Instant.ofMilliseconds?_of_not_hasMillisecond h]

theorem hasMillisecond_of_toTime {t u : Instant} (h : toTime (ofTime t) = .ok u) :
    t.HasMillisecond := by
  refine Decidable.byContradiction fun hlast => ?_
  rw [toTime_ofTime_of_not_hasMillisecond hlast] at h
  cases h

theorem toTime?_map_ofTime {t? : Option Instant} (h : ∀ t ∈ t?, t.HasMillisecond) :
    toTime? (t?.map ofTime) = .ok (t?.map Instant.inMilliseconds) := by
  cases t? with
  | none => rfl
  | some t => simp [toTime?, toTime_ofTime (h t rfl), Except.map]

theorem hasMillisecond_of_toTime? {t? u? : Option Instant}
    (h : toTime? (t?.map ofTime) = .ok u?) : ∀ t ∈ t?, t.HasMillisecond := by
  rintro t rfl
  cases htime : toTime (ofTime t) with
  | ok u => exact hasMillisecond_of_toTime htime
  | error e =>
      rw [Option.map_some, toTime?, htime] at h
      cases h

theorem toCount_ofCount (n : UInt32) : toCount (ofCount n) = .ok n := by
  have hsize : UInt32.size = 4294967296 := rfl
  have hlt := n.toNat_lt
  have hint : (ofCount n).toInt = n.toNat := Int64.toInt_ofNat_of_lt (by omega)
  rw [toCount, hint, if_pos (by omega), Int.toNat_natCast, UInt32.ofNat_toNat]

theorem toAmount_toText {d : Decimal} (h : d.IsPositive) : toAmount d.toText = .ok d := by
  rw [toAmount, Decimal.read_toText d fun _ => h.2]

theorem parse_toText_id (id : PayoutId) : PayoutId.parse id.toText = .ok id := by
  rw [PayoutId.parse, id.read?_toText]

theorem parse_toText_status (s : Status) : Status.parse s.toText = .ok s := by
  cases s <;> rfl

theorem parse_toText_kind (k : Kind) : Kind.parse k.toText = .ok k := by
  cases k <;> rfl

/-- Every column of a row denotes the field of a payout. -/
structure Denotes (r : PayoutRow Int64) (p : Payout) : Prop where
  id : PayoutId.parse r.id = .ok p.id
  recipient : r.recipient = p.recipient
  amount : toAmount r.amount = .ok p.amount
  asset : r.asset = p.asset
  status : Status.parse r.status = .ok p.status
  kind : Kind.parse r.kind = .ok p.kind
  questRef : r.questRef = p.questRef
  submissionRef : r.submissionRef = p.submissionRef
  submittedHash : r.submittedHash = p.submittedHash
  transactionRef : r.transactionRef = p.transactionRef
  ledgerRef : r.ledgerRef = p.ledgerRef
  failureReason : r.failureReason = p.failureReason
  retryCount : toCount r.retryCount = .ok p.retryCount
  maxRetries : toCount r.maxRetries = .ok p.maxRetries
  nextRetryAt : toTime? r.nextRetryAt = .ok p.nextRetryAt
  processedAt : toTime? r.processedAt = .ok p.processedAt
  claimedAt : toTime? r.claimedAt = .ok p.claimedAt
  createdAt : toTime r.createdAt = .ok p.createdAt
  updatedAt : toTime r.updatedAt = .ok p.updatedAt

theorem bind_eq_ok_iff {ε α β : Type} {x : Except ε α} {f : α → Except ε β} {b : β} :
    x >>= f = .ok b ↔ ∃ a, x = .ok a ∧ f a = .ok b := by
  cases x with
  | error e => simp [bind, Except.bind]
  | ok a => simp [bind, Except.bind]

theorem toPayout_eq_ok_iff : r.toPayout = .ok p ↔ r.Denotes p := by
  simp only [toPayout, bind_eq_ok_iff]
  constructor
  · rintro ⟨id, hid, amount, hamount, status, hstatus, kind, hkind, retryCount, hretryCount,
      maxRetries, hmaxRetries, nextRetryAt, hnextRetryAt, processedAt, hprocessedAt, claimedAt,
      hclaimedAt, createdAt, hcreatedAt, updatedAt, hupdatedAt, hp⟩
    cases hp
    exact ⟨hid, rfl, hamount, rfl, hstatus, hkind, rfl, rfl, rfl, rfl, rfl, rfl, hretryCount,
      hmaxRetries, hnextRetryAt, hprocessedAt, hclaimedAt, hcreatedAt, hupdatedAt⟩
  · intro h
    refine ⟨_, h.id, _, h.amount, _, h.status, _, h.kind, _, h.retryCount, _, h.maxRetries, _,
      h.nextRetryAt, _, h.processedAt, _, h.claimedAt, _, h.createdAt, _, h.updatedAt, ?_⟩
    rw [h.recipient, h.asset, h.questRef, h.submissionRef, h.submittedHash, h.transactionRef,
      h.ledgerRef, h.failureReason]
    rfl

/-- The row of a payout denotes it, with its times in whole milliseconds. -/
theorem denotes_ofPayout (hamount : p.amount.IsPositive)
    (htimes : ∀ t ∈ p.times, t.HasMillisecond) : (ofPayout p).Denotes p.inMilliseconds := by
  obtain ⟨hcreated, hstate⟩ := Payout.forall_times.mp htimes
  obtain ⟨hnext, hprocessed, hclaimed, hupdated⟩ := Payout.forall_stateTimes.mp hstate
  constructor
  case id => exact parse_toText_id p.id
  case amount => exact toAmount_toText hamount
  case status => exact parse_toText_status p.status
  case kind => exact parse_toText_kind p.kind
  case retryCount => exact toCount_ofCount p.retryCount
  case maxRetries => exact toCount_ofCount p.maxRetries
  case nextRetryAt => exact toTime?_map_ofTime hnext
  case processedAt => exact toTime?_map_ofTime hprocessed
  case claimedAt => exact toTime?_map_ofTime hclaimed
  case createdAt => exact toTime_ofTime hcreated
  case updatedAt => exact toTime_ofTime hupdated
  all_goals rfl

theorem hasMillisecond_of_denotes (h : (ofPayout p).Denotes q) :
    ∀ t ∈ p.times, t.HasMillisecond := by
  refine Payout.forall_times.mpr ⟨hasMillisecond_of_toTime h.createdAt, ?_⟩
  refine Payout.forall_stateTimes.mpr ⟨?_, ?_, ?_, ?_⟩
  · exact hasMillisecond_of_toTime? h.nextRetryAt
  · exact hasMillisecond_of_toTime? h.processedAt
  · exact hasMillisecond_of_toTime? h.claimedAt
  · exact hasMillisecond_of_toTime h.updatedAt

theorem Denotes.updated (h : r.Denotes p) (htimes : ∀ t ∈ q.stateTimes, t.HasMillisecond) :
    (r.updated (ofPayout q)).Denotes (p.withState q.inMilliseconds) := by
  obtain ⟨hnext, hprocessed, hclaimed, hupdated⟩ := Payout.forall_stateTimes.mp htimes
  constructor
  all_goals dsimp only [PayoutRow.updated, ofPayout, Payout.withState, Payout.inMilliseconds]
  case id => exact h.id
  case recipient => exact h.recipient
  case amount => exact h.amount
  case asset => exact h.asset
  case status => exact parse_toText_status q.status
  case kind => exact h.kind
  case questRef => exact h.questRef
  case submissionRef => exact h.submissionRef
  case retryCount => exact toCount_ofCount q.retryCount
  case maxRetries => exact toCount_ofCount q.maxRetries
  case nextRetryAt => exact toTime?_map_ofTime hnext
  case processedAt => exact toTime?_map_ofTime hprocessed
  case claimedAt => exact toTime?_map_ofTime hclaimed
  case createdAt => exact h.createdAt
  case updatedAt => exact toTime_ofTime hupdated

theorem integer?_map_int (column : String) (n? : Option Int64) :
    integer? column (n?.map .int) = .ok n? := by
  cases n? <;> rfl

theorem integers_map_int (r : PayoutRow Int64) : (r.map .int).integers = .ok r := by
  simp only [integers, map, integer?_map_int, integer]
  rfl

theorem map_int_updated (r new : PayoutRow Int64) :
    (r.map Quantity.int).updated (new.map .int) = (r.updated new).map .int :=
  rfl

theorem integer_eq_ok_iff {column : String} {optional : Bool} {x : Quantity} {n : Int64} :
    integer column optional x = .ok n ↔ x = .int n := by
  cases x <;> simp [integer]

theorem integer?_eq_ok_iff {column : String} {x? : Option Quantity} {n? : Option Int64} :
    integer? column x? = .ok n? ↔ x? = n?.map .int := by
  cases x? with
  | none => cases n? <;> simp [integer?]
  | some x => cases x <;> cases n? <;> simp [integer?, integer, Except.map]

theorem integers_eq_ok_iff {row : PayoutRow Quantity} :
    row.integers = .ok r ↔ row = r.map .int := by
  constructor
  · simp only [integers, bind_eq_ok_iff, integer_eq_ok_iff, integer?_eq_ok_iff]
    rintro ⟨ledgerRef, hledger, retryCount, hretry, maxRetries, hmax, nextRetryAt, hnext,
      processedAt, hprocessed, claimedAt, hclaimed, createdAt, hcreated, updatedAt, hupdated, hr⟩
    cases hr
    simp only [map, ← hledger, ← hretry, ← hmax, ← hnext, ← hprocessed, ← hclaimed, ← hcreated,
      ← hupdated]
  · rintro rfl
    exact integers_map_int r

end PayoutRow

end Disburse
