import Disburse.Proofs.Engine.Calm
import Disburse.Proofs.Engine.Claims

namespace Disburse.Engine

variable {policy : RetryPolicy} {new : NewPayout} {id : PayoutId} {p read : Payout}
  {past : List (Exchange interface)} {o : Outcome Payout}

/-- The services that answer with a record. -/
inductive Demand where
  | create (new : NewPayout)
  | claim (submissionRef recipient : String)
  | retry (id : PayoutId)

namespace Demand

def work (policy : RetryPolicy) : Demand → Work Payout
  | create new => createPayout policy new
  | claim submissionRef recipient => claimPayout submissionRef recipient
  | retry id => retryPayout policy id

/-- The operation that a service runs as. -/
def operation : Demand → Operation
  | create new => .create new
  | claim submissionRef recipient => .claim submissionRef recipient
  | retry id => .retry id

end Demand

def creation (p : Payout) (answer : Except Error Unit) : Exchange interface :=
  ⟨.store (.create p), answer⟩

def reading (id : PayoutId) (found : Except Error (Option Payout)) : Exchange interface :=
  ⟨.store (.get id), found⟩

def resetSwap (p : Payout) (answer : Except Error Bool) : Exchange interface :=
  ⟨.store (.saveIf p .failed), answer⟩

/-- The answer to a retry of a payout that has not failed. -/
def notFailed (id : PayoutId) (status : Status) : Outcome Payout :=
  .error (.error (.invalidState id.toText status "only FAILED payouts can be retried"))

/-- The answer to a request for a record that is not there. -/
def missing (id : PayoutId) : Outcome Payout :=
  .error (.error (.notFound id.toText))

/-- How a creation may end, and what it has asked for until then. -/
inductive CreateEnds (policy : RetryPolicy) (new : NewPayout) :
    List (Exchange interface) → Outcome Payout → Prop where
  | invalid (e : Error) (h : new.validate = .error e) :
    CreateEnds policy new [] (.error (.error e))
  /-- The clock stands before 1970. -/
  | untimed (id : PayoutId) (now : Instant) (hnow : now.seconds < 0) :
    CreateEnds policy new [⟨.freshId, id⟩, ⟨.now, now⟩] (.error .crash)
  | unwritten (id : PayoutId) (now : Instant) (e : Error) :
    CreateEnds policy new [⟨.freshId, id⟩, ⟨.now, now⟩,
      creation (.ofNew new id policy.defaultMaxRetries now) (.error e)] (.error (.error e))
  | created (id : PayoutId) (now : Instant) :
    CreateEnds policy new [⟨.freshId, id⟩, ⟨.now, now⟩,
      creation (.ofNew new id policy.defaultMaxRetries now) (.ok ())]
      (.ok (.ofNew new id policy.defaultMaxRetries now))

/-- How a retry may end, and what it has asked for until then. -/
inductive RetryEnds (policy : RetryPolicy) (id : PayoutId) :
    List (Exchange interface) → Outcome Payout → Prop where
  | unread (e : Error) : RetryEnds policy id [reading id (.error e)] (.error (.error e))
  | missing : RetryEnds policy id [reading id (.ok none)] (missing id)
  /-- The clock stands before 1970. -/
  | untimed (read : Payout) (now : Instant) (hnow : now.seconds < 0) :
    RetryEnds policy id [reading id (.ok (some read)), ⟨.now, now⟩] (.error .crash)
  | refused (read : Payout) (now : Instant) (h : read.status ≠ .failed) :
    RetryEnds policy id [reading id (.ok (some read)), ⟨.now, now⟩] (notFailed read.id read.status)
  | unwritten (read p : Payout) (now : Instant) (e : Error)
      (h : read.resetForRetry policy.defaultMaxRetries now = .ok p) :
    RetryEnds policy id [reading id (.ok (some read)), ⟨.now, now⟩, resetSwap p (.error e)]
      (.error (.error e))
  | lostUnread (read p : Payout) (now : Instant) (e : Error)
      (h : read.resetForRetry policy.defaultMaxRetries now = .ok p) :
    RetryEnds policy id [reading id (.ok (some read)), ⟨.now, now⟩, resetSwap p (.ok false),
      reading id (.error e)] (.error (.error e))
  | lostMissing (read p : Payout) (now : Instant)
      (h : read.resetForRetry policy.defaultMaxRetries now = .ok p) :
    RetryEnds policy id [reading id (.ok (some read)), ⟨.now, now⟩, resetSwap p (.ok false),
      reading id (.ok none)] (Engine.missing id)
  | lost (read p current : Payout) (now : Instant)
      (h : read.resetForRetry policy.defaultMaxRetries now = .ok p) :
    RetryEnds policy id [reading id (.ok (some read)), ⟨.now, now⟩, resetSwap p (.ok false),
      reading id (.ok (some current))] (notFailed id current.status)
  | granted (read p : Payout) (now : Instant)
      (h : read.resetForRetry policy.defaultMaxRetries now = .ok p) :
    RetryEnds policy id [reading id (.ok (some read)), ⟨.now, now⟩, wonSwap p .failed,
      ⟨.dispatch id, ()⟩] (.ok p)

theorem heeds_create : (Code.free interface).Heeds (createPayout policy new)
    (fun o past => CreateEnds policy new past o) [] := by
  unfold createPayout
  cases hvalid : new.validate with
  | error e => exact CreateEnds.invalid e hvalid
  | ok _ =>
      refine ⟨trivial, fun id _ => ?_⟩
      refine heeds_now_bind (fun now _ => ?_) fun now hnow => CreateEnds.untimed id now hnow
      refine Code.Heeds.bind heeds_request ?_ ?_
      · rintro _ past ⟨e | _, ho, rfl⟩
        · cases ho
        · exact CreateEnds.created id now
      · rintro e past ⟨e' | _, ho, rfl⟩
        · obtain rfl := Except.error.inj ho
          exact CreateEnds.unwritten id now e'
        · cases ho

theorem heeds_load : (Code.free interface).Heeds (load id) (fun o past' =>
    (∃ e, o = .error (.error e) ∧ past' = past ++ [reading id (.error e)]) ∨
      (o = missing id ∧ past' = past ++ [reading id (.ok none)]) ∨
        ∃ p, o = .ok p ∧ past' = past ++ [reading id (.ok (some p))]) past := by
  refine Code.Heeds.bind heeds_request ?_ ?_
  · rintro found past' ⟨e | found', ho, rfl⟩
    · cases ho
    obtain rfl := Except.ok.inj ho
    cases found with
    | none => exact .inr (.inl ⟨rfl, rfl⟩)
    | some p => exact .inr (.inr ⟨p, rfl, rfl⟩)
  · rintro e past' ⟨e' | found, ho, rfl⟩
    · obtain rfl := Except.error.inj ho
      exact .inl ⟨e', rfl, rfl⟩
    · cases ho

theorem heeds_retry_swap {now : Instant}
    (h : read.resetForRetry policy.defaultMaxRetries now = .ok p) :
    (Code.free interface).Heeds (do
        if ← store (.saveIf p .failed) then
          dispatch id
          return p
        else
          let current ← load id
          invalidState id current.status "only FAILED payouts can be retried")
      (fun o past => RetryEnds policy id past o) [reading id (.ok (some read)), ⟨.now, now⟩] := by
  refine Code.Heeds.bind heeds_request ?_ ?_
  · rintro won past ⟨e | won', hwon, rfl⟩
    · cases hwon
    obtain rfl := Except.ok.inj hwon
    cases won with
    | true => exact ⟨trivial, fun _ _ => RetryEnds.granted read p now h⟩
    | false =>
        refine Code.Heeds.bind heeds_load ?_ ?_
        · rintro current past' (⟨e, he, -⟩ | ⟨hmissing, -⟩ | ⟨current', hcurrent, rfl⟩)
          · cases he
          · cases hmissing
          · obtain rfl := Except.ok.inj hcurrent
            exact RetryEnds.lost read p current now h
        · rintro e past' (⟨e', he, rfl⟩ | ⟨hmissing, rfl⟩ | ⟨current', hcurrent, -⟩)
          · obtain rfl := Except.error.inj he
            exact RetryEnds.lostUnread read p now e' h
          · obtain rfl := Except.error.inj hmissing
            exact RetryEnds.lostMissing read p now h
          · cases hcurrent
  · rintro e past ⟨e' | won, he, rfl⟩
    · obtain rfl := Except.error.inj he
      exact RetryEnds.unwritten read p now e' h
    · cases he

theorem heeds_retry : (Code.free interface).Heeds (retryPayout policy id)
    (fun o past => RetryEnds policy id past o) [] := by
  unfold retryPayout
  refine Code.Heeds.bind heeds_load ?_ ?_
  · rintro read past (⟨e, he, -⟩ | ⟨hmissing, -⟩ | ⟨read', hread, rfl⟩)
    · cases he
    · cases hmissing
    obtain rfl := Except.ok.inj hread
    refine heeds_now_bind (fun now _ => ?_) fun now hnow => RetryEnds.untimed read now hnow
    cases hreset : read.resetForRetry policy.defaultMaxRetries now with
    | ok p => exact heeds_retry_swap hreset
    | error e =>
        unfold Payout.resetForRetry at hreset
        split at hreset
        · cases hreset
        · rename_i hstatus
          obtain rfl := Except.error.inj hreset
          exact RetryEnds.refused read now hstatus
  · rintro e past (⟨e', he, rfl⟩ | ⟨hmissing, rfl⟩ | ⟨read, hread, -⟩)
    · obtain rfl := Except.error.inj he
      exact RetryEnds.unread e'
    · obtain rfl := Except.error.inj hmissing
      exact RetryEnds.missing
    · cases hread

namespace Demand

/-- How a service may end, and what it has asked for until then. -/
def Ends (policy : RetryPolicy) :
    Demand → List (Exchange interface) → Outcome Payout → Prop
  | create new => CreateEnds policy new
  | claim submissionRef recipient => ClaimEnds submissionRef recipient
  | retry id => RetryEnds policy id

theorem heeds_work (policy : RetryPolicy) (d : Demand) :
    (Code.free interface).Heeds (d.work policy) (fun o past => d.Ends policy past o) [] := by
  cases d with
  | create new => exact heeds_create
  | claim submissionRef recipient => exact heeds_claim
  | retry id => exact heeds_retry

end Demand

/-- A write that was answered well, an event or a dispatch. -/
def leavesTrace : Exchange interface → Bool
  | ⟨.store (.create _), .ok _⟩ => true
  | ⟨.store (.save _), .ok _⟩ => true
  | ⟨.store (.saveIf ..), .ok true⟩ => true
  | ⟨.publish _, _⟩ => true
  | ⟨.dispatch _, _⟩ => true
  | _ => false

theorem store_of_leavesTrace {b : Behaviour} {r : Request} {a : interface.Answer r}
    {s s' : MemoryStore} (hanswer : b.answer r s = some (a, s')) (hlate : ∀ e, b ≠ .failAfter e)
    (h : leavesTrace ⟨r, a⟩ = false) : s' = s := by
  cases r with
  | transfer _ | now | freshId | publish _ | dispatch _ | pause _ =>
      exact Behaviour.answer_other (by simp) hanswer
  | store c =>
      cases b with
      | failAfter e => exact absurd rfl (hlate e)
      | fail e =>
          obtain ⟨-, rfl⟩ := Prod.mk.inj (Option.some.inj hanswer)
          rfl
      | shuffled rows => exact (Behaviour.answer_shuffled hanswer).1
      | submitted _ | confirmed _ | found _ | clock _ | draw _ => cases hanswer
      | plain =>
          cases c with
          | get _ | findBySubmission _ | findDue _ _ _ | findStale _ _ _ | list _ =>
              exact (Behaviour.answer_read rfl hanswer).1
          | saveIf p expected =>
              have hplain : s.saveIf p expected = (a, s') := Option.some.inj hanswer
              rcases s.saveIf_cases p expected with ⟨row, -, -, hwon⟩ | ⟨hsame, -⟩
              · rw [hplain] at hwon
                cases hwon
                cases h
              · rwa [hplain] at hsame
          | create p =>
              have hplain : s.create p = (a, s') := Option.some.inj hanswer
              unfold MemoryStore.create at hplain
              split at hplain
              · split at hplain <;> cases hplain
                · rfl
                · cases h
              · cases hplain
                cases h
          | save p =>
              have hplain : s.save p = (a, s') := Option.some.inj hanswer
              unfold MemoryStore.save at hplain
              split at hplain <;> cases hplain
              · cases h
              · rfl

namespace Demand

/-- What is refused leaves no trace, wherever that happens. -/
theorem Ends.leavesTrace {d : Demand} {e : Abort} (h : d.Ends policy past (.error e)) :
    ∀ x ∈ past, leavesTrace x = false := by
  have hall : past.all (fun x => !Engine.leavesTrace x) = true := by
    cases d with
    | create new => cases h <;> rfl
    | claim submissionRef recipient => cases h <;> rfl
    | retry id => cases h <;> rfl
  simpa using hall

end Demand

theorem resetForRetry_fields {defaultMaxRetries : UInt32} {now : Instant} (hlegal : read.Legal)
    (h : read.resetForRetry defaultMaxRetries now = .ok p) :
    read.status = .failed ∧ p.status = .processing ∧ p.retryCount = 0 ∧
      p.maxRetries = defaultMaxRetries ∧ p.failureReason = none ∧ p.nextRetryAt = none ∧
      p.submittedHash = none ∧ p.claimedAt = read.claimedAt ∧ read.SameOrigin p := by
  obtain ⟨hstatus, rfl⟩ := Payout.resetForRetry_eq_ok h
  exact ⟨hstatus, rfl, rfl, rfl, rfl, rfl, hlegal.submittedHash_eq_none (by rw [hstatus]; decide),
    rfl, by constructor <;> rfl⟩

end Disburse.Engine
