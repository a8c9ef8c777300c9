import Disburse.Proofs.Engine.Journal
import Disburse.Proofs.Payout.Schedule

/-!
The chapters in the life of a payout: each begins when the payout is claimed or sent back by an
operator, and ends before the next one begins. What may happen to a payout at an entry of the log
determines what a chapter looks like as a whole: how many attempts fail, when the next one is due,
and how often something is submitted.
-/

namespace Disburse

/-- A record as the failed attempt with this number leaves it. -/
structure Payout.Booked (policy : RetryPolicy) (maxRetries attempt : Nat) (p : Payout) : Prop where
  attempt_le : attempt ≤ max 1 maxRetries
  waits : attempt < maxRetries → p.status = .retryScheduled ∧ p.retryCount.toNat = attempt ∧
    ∃ delay due, delay.nanoseconds = policy.baseUnit.nanoseconds * Nat.pow 2 (min attempt 20) ∧
      p.updatedAt.add? delay = some due ∧ p.nextRetryAt = some due
  fails : maxRetries ≤ attempt → p.status = .failed ∧ p.retryCount.toNat = maxRetries ∧
    p.nextRetryAt = none

theorem Payout.recordFailure?_due {p q : Payout} {reason : String} {policy : RetryPolicy}
    {now : Instant} (h : p.recordFailure? reason policy now = some q)
    (hstatus : q.status = .retryScheduled) :
    ∃ delay due, policy.backoff? q.retryCount = some delay ∧ now.add? delay = some due ∧
      q.nextRetryAt = some due := by
  unfold recordFailure? at h
  cases hcount : p.countFailure? with
  | none => simp [hcount] at h
  | some count =>
      simp only [hcount, Option.bind_eq_bind, Option.bind_some, Option.pure_def] at h
      split at h
      · obtain ⟨delay, hdelay, h⟩ := Option.bind_eq_some_iff.mp h
        obtain ⟨due, hdue, h⟩ := Option.bind_eq_some_iff.mp h
        obtain rfl := Option.some.inj h
        exact ⟨delay, due, hdelay, hdue, rfl⟩
      · obtain rfl := Option.some.inj h
        cases hstatus

theorem Payout.booked_recordFailure? {p q : Payout} {reason : String} {policy : RetryPolicy}
    {now : Instant} (h : p.recordFailure? reason policy now = some q)
    (hroom : p.retryCount.toNat < max 1 p.maxRetries.toNat) :
    q.Booked policy p.maxRetries.toNat (p.retryCount.toNat + 1) ∧ q.maxRetries = p.maxRetries ∧
      q.updatedAt = now := by
  have hdue := recordFailure?_due h
  obtain ⟨count, hcount, ⟨hlt, due, rfl⟩ | ⟨hlt, rfl⟩⟩ := recordFailure?_eq_some h
  all_goals
    have hmin := countFailure?_eq_some hcount
    rw [UInt32.lt_iff_toNat_lt] at hlt
    refine ⟨⟨by omega, fun hwaits => ?_, fun hfails => ?_⟩, rfl, rfl⟩
  · have hattempt : count.toNat = p.retryCount.toNat + 1 := by omega
    obtain ⟨delay, due', hdelay, hadd, hnext⟩ := hdue rfl
    refine ⟨rfl, hattempt, delay, due', ?_, hadd, hnext⟩
    rw [← hattempt]
    exact RetryPolicy.backoff?_eq_some hdelay
  · omega
  · omega
  · have hmax : count.toNat = p.maxRetries.toNat := by omega
    exact ⟨rfl, hmax, rfl⟩

namespace Engine

/-- An entry that brings a payout into processing. -/
def EntersAt (before : List Entry) (e : Entry) (id : PayoutId) : Prop :=
  ∃ change ∈ change? id (storeAfter .empty before) e.store, Enters change

/-- Nothing was submitted for a payout since it last entered processing. -/
def Unsent (log : List Entry) (id : PayoutId) : Prop :=
  ∃ before e after, log = before ++ e :: after ∧ EntersAt before e id ∧
    ∀ x ∈ after, ¬ x.Submits id

/-- A sweep was shown a record among those that were due at an instant. -/
def ShownDue (log : List Entry) (now : Instant) (p : Payout) : Prop :=
  ∃ e ∈ log, ∃ limit due,
    e.exchange = ⟨.store (.findDue .retryScheduled now limit), .ok due⟩ ∧ p ∈ due

/-- The clock was read. -/
def ReadAt (log : List Entry) (now : Instant) : Prop :=
  ∃ e ∈ log, e.exchange = ⟨.now, now⟩

/-- A transition is the one that the policy and the log call for. -/
def Fits (policy : RetryPolicy) (log : List Entry) (p : Payout) : Transition → Prop
  | .claim _ => True
  | .submission .. => True
  | .completion .. => p.status = .processing
  | .failure _ used now => used = policy ∧ ReadAt log now
  | .requeue now => p.nextRetryAt.any (·.ble now) = true ∧ ShownDue log now p
  | .reset defaultMaxRetries _ => defaultMaxRetries = policy.defaultMaxRetries

/-- What may happen to a payout at an entry behind a log. -/
inductive Happens (policy : RetryPolicy) (log : List Entry) (e : Entry) (id : PayoutId) : Prop
  | nothing (same : e.store.find? id = (storeAfter .empty log).find? id)
      (quiet : ¬ e.Submits id)
  | created {p : Payout} (free : (storeAfter .empty log).find? id = none)
      (found : e.store.find? id = some p) (status : p.status = .pending)
      (quiet : ¬ e.Submits id)
  | submitted {p : Payout} (found : (storeAfter .empty log).find? id = some p)
      (same : e.store.find? id = some p) (status : p.status = .processing)
      (unsent : Unsent log id)
  | moved {p q : Payout} {T : Transition} (found : (storeAfter .empty log).find? id = some p)
      (written : e.store.find? id = some q) (legal : p.Legal) (start : T.StartsFrom p.status)
      (applies : T.apply p = some q) (fits : Fits policy log p T) (quiet : ¬ e.Submits id)

/-- Every entry does one of the things that may happen to a payout. -/
def Orderly (policy : RetryPolicy) (log : List Entry) : Prop :=
  ∀ before e, before ++ [e] <+: log → ∀ id, Happens policy before e id

variable {policy : RetryPolicy} {log before segment : List Entry} {e : Entry} {id : PayoutId}
  {s : MemoryStore}

theorem storeAfter_append_cons : storeAfter s (before ++ e :: log) = storeAfter e.store log := by
  induction before generalizing s with
  | nil => rfl
  | cons e' before ih => exact ih

theorem changes_append_cons : changes id s (before ++ e :: log) =
    changes id s before ++ (change? id (storeAfter s before) e.store).toList ++
      changes id e.store log := by
  induction before generalizing s with
  | nil => rfl
  | cons e' before ih => simp [changes, storeAfter, ih]

theorem unsent_append :
    Unsent (log ++ [e]) id ↔ EntersAt log e id ∨ (Unsent log id ∧ ¬ e.Submits id) := by
  constructor
  · rintro ⟨before, e', after, hlog, henters, hquiet⟩
    -- The payout entered at the last entry, or that is one of those after it.
    rcases List.eq_nil_or_concat after with rfl | ⟨after, last, rfl⟩
    · obtain ⟨rfl, hlast⟩ := List.append_inj' hlog rfl
      exact .inl (List.singleton_inj.mp hlast ▸ henters)
    · rw [List.concat_eq_append, ← List.cons_append, ← List.append_assoc] at hlog
      obtain ⟨rfl, hlast⟩ := List.append_inj' hlog rfl
      obtain rfl := List.singleton_inj.mp hlast
      exact .inr ⟨⟨before, e', after, rfl, henters, fun x hx => hquiet x (by simp [hx])⟩,
        hquiet e (by simp)⟩
  · rintro (henters | ⟨⟨before, e', after, rfl, henters, hquiet⟩, hsubmits⟩)
    · exact ⟨log, e, [], rfl, henters, by simp⟩
    · refine ⟨before, e', after ++ [e], by simp, henters, fun x hx => ?_⟩
      rcases List.mem_append.mp hx with hx | hx
      · exact hquiet x hx
      · exact List.mem_singleton.mp hx ▸ hsubmits

theorem ShownDue.mono {now : Instant} {p : Payout} (h : ShownDue log now p)
    (hlog : log <+: before) : ShownDue before now p := by
  obtain ⟨e, he, hshown⟩ := h
  exact ⟨e, hlog.subset he, hshown⟩

theorem ReadAt.mono {now : Instant} (h : ReadAt log now) (hlog : log <+: before) :
    ReadAt before now := by
  obtain ⟨e, he, hread⟩ := h
  exact ⟨e, hlog.subset he, hread⟩

theorem orderly_nil : Orderly policy [] := by
  intro before e hprefix
  simp at hprefix

theorem Orderly.append (h : Orderly policy log) (he : ∀ id, Happens policy log e id) :
    Orderly policy (log ++ [e]) :=
  forall_prefix_append h he

/-- A claim, or an operator who sends a failed payout back. -/
def Opens (change : Payout × Payout) : Prop :=
  (change.1.status = .pending ∨ change.1.status = .failed) ∧ change.2.status = .processing

instance (change : Payout × Payout) : Decidable (Opens change) :=
  inferInstanceAs (Decidable (_ ∧ _))

/-- The changes that count as failures, from a store on. -/
def failuresFrom (id : PayoutId) (s : MemoryStore) (log : List Entry) : List (Payout × Payout) :=
  (changes id s log).filter fun change => Fails change

def submissions (id : PayoutId) (log : List Entry) : List Entry :=
  log.filter fun e => e.Submits id

/-- Where a payout stands after some failed attempts and some submissions. -/
inductive Stands (maxRetries failed sent : Nat) (unsent : Prop) (p : Payout) : Prop
  | processing (status : p.status = .processing) (count : p.retryCount.toNat = failed)
      (room : failed < max 1 maxRetries) (sent_le : sent ≤ failed + 1)
      (before : unsent → sent ≤ failed)
  | waiting (status : p.status = .retryScheduled) (count : p.retryCount.toNat = failed)
      (room : failed < maxRetries) (sent_le : sent ≤ failed)
  | failed (status : p.status = .failed) (all : failed = max 1 maxRetries)
      (sent_le : sent ≤ failed)
  | completed (status : p.status = .completed) (room : failed < max 1 maxRetries)
      (sent_le : sent ≤ failed + 1)

section Stands

variable {maxRetries failed sent : Nat} {unsent : Prop} {p : Payout}

theorem Stands.sent_le (h : Stands maxRetries failed sent unsent p) : sent ≤ failed + 1 := by
  cases h <;> omega

theorem Stands.sent_le_max (h : Stands maxRetries failed sent unsent p) :
    sent ≤ max 1 maxRetries := by
  cases h <;> omega

theorem Stands.of_processing (h : Stands maxRetries failed sent unsent p)
    (hstatus : p.status = .processing) : p.retryCount.toNat = failed ∧ failed < max 1 maxRetries ∧
      sent ≤ failed + 1 ∧ (unsent → sent ≤ failed) := by
  cases h with
  | processing status count room sent_le before => exact ⟨count, room, sent_le, before⟩
  | waiting status | failed status | completed status => simp [hstatus] at status

theorem Stands.of_waiting (h : Stands maxRetries failed sent unsent p)
    (hstatus : p.status = .retryScheduled) :
    p.retryCount.toNat = failed ∧ failed < maxRetries ∧ sent ≤ failed := by
  cases h with
  | waiting status count room sent_le => exact ⟨count, room, sent_le⟩
  | processing status | failed status | completed status => simp [hstatus] at status

theorem Stands.status_ne_pending (h : Stands maxRetries failed sent unsent p) :
    p.status ≠ .pending := by
  cases h with
  | processing status | waiting status | failed status | completed status => simp [status]

theorem Stands.imp {unsent' : Prop} (h : Stands maxRetries failed sent unsent p)
    (himp : unsent' → unsent) : Stands maxRetries failed sent unsent' p := by
  cases h with
  | processing status count room sent_le before =>
      exact .processing status count room sent_le fun h => before (himp h)
  | waiting status count room sent_le => exact .waiting status count room sent_le
  | failed status all sent_le => exact .failed status all sent_le
  | completed status room sent_le => exact .completed status room sent_le

end Stands

/-- A payout that is requeued has become due. -/
structure Requeued (log : List Entry) (change : Payout × Payout) : Prop where
  due : ∃ due, change.1.nextRetryAt = some due ∧ due.ble change.2.updatedAt = true
  shown : ShownDue log change.2.updatedAt change.1

/-- What a transition within a chapter makes of a record. -/
structure Moves (policy : RetryPolicy) (log : List Entry) (maxRetries failed sent : Nat)
    (unsent : Prop) (p q : Payout) : Prop where
  maxRetries_eq : q.maxRetries = p.maxRetries
  stands : Stands maxRetries (failed + if Fails (p, q) then 1 else 0) sent unsent q
  booked : Fails (p, q) → q.Booked policy maxRetries (failed + 1) ∧ ReadAt log q.updatedAt
  requeued : p.status = .retryScheduled → q.status = .processing → Requeued log (p, q)

section Moves

variable {failed sent : Nat} {unsent unsent' : Prop} {p q : Payout} {now : Instant}

theorem Moves.of_not_fails {maxRetries : Nat} (hstatus : p.status = .processing)
    (hnot : ¬ Fails (p, q)) (hmax : q.maxRetries = p.maxRetries)
    (hstands : Stands maxRetries failed sent unsent q) :
    Moves policy log maxRetries failed sent unsent p q where
  maxRetries_eq := hmax
  stands := by rwa [if_neg hnot, Nat.add_zero]
  booked hfails := absurd hfails hnot
  requeued hscheduled := by
    rw [hstatus] at hscheduled
    cases hscheduled

theorem Stands.moves_submission {hash : String}
    (h : Stands p.maxRetries.toNat failed sent unsent p) (hstatus : p.status = .processing)
    (hunsent : unsent' → unsent) :
    Moves policy log p.maxRetries.toNat failed sent unsent' p (p.markSubmitted hash now) := by
  obtain ⟨hcount, hroom, hsent, hbefore⟩ := h.of_processing hstatus
  exact .of_not_fails hstatus (by simp [Fails, Payout.markSubmitted, hstatus]) rfl
    (.processing hstatus hcount hroom hsent fun h => hbefore (hunsent h))

theorem Stands.moves_completion {transactionRef : String} {ledgerRef : Int64}
    (h : Stands p.maxRetries.toNat failed sent unsent p) (hstatus : p.status = .processing) :
    Moves policy log p.maxRetries.toNat failed sent unsent' p
      (p.markCompleted transactionRef ledgerRef now) := by
  obtain ⟨-, hroom, hsent, -⟩ := h.of_processing hstatus
  exact .of_not_fails hstatus (by simp [Fails, Payout.markCompleted]) rfl
    (.completed rfl hroom hsent)

theorem Stands.moves_failure {reason : String}
    (h : Stands p.maxRetries.toNat failed sent unsent p) (hstatus : p.status = .processing)
    (hfailed : p.recordFailure? reason policy now = some q) (hread : ReadAt log now) :
    Moves policy log p.maxRetries.toNat failed sent unsent' p q := by
  obtain ⟨hcount, hroom, hsent, -⟩ := h.of_processing hstatus
  obtain ⟨hbooked, hmax, rfl⟩ := Payout.booked_recordFailure? hfailed (hcount.symm ▸ hroom)
  rw [hcount] at hbooked
  have hattempt := hbooked.attempt_le
  have hstands : Fails (p, q) ∧ Stands p.maxRetries.toNat (failed + 1) sent unsent' q := by
    by_cases hwaits : failed + 1 < p.maxRetries.toNat
    · obtain ⟨hscheduled, hretries, -⟩ := hbooked.waits hwaits
      exact ⟨⟨hstatus, .inl hscheduled⟩, .waiting hscheduled hretries hwaits hsent⟩
    · obtain ⟨hgivenUp, -⟩ := hbooked.fails (Nat.le_of_not_lt hwaits)
      exact ⟨⟨hstatus, .inr hgivenUp⟩, .failed hgivenUp (by omega) hsent⟩
  refine ⟨hmax, ?_, fun _ => ⟨hbooked, hread⟩, fun hscheduled => ?_⟩
  · rw [if_pos hstands.1]
    exact hstands.2
  · rw [hstatus] at hscheduled
    cases hscheduled

theorem Stands.moves_requeue (h : Stands p.maxRetries.toNat failed sent unsent p)
    (hstatus : p.status = .retryScheduled) (hfits : Fits policy log p (.requeue now)) :
    Moves policy log p.maxRetries.toNat failed sent unsent' p
      { p with status := .processing, nextRetryAt := none, updatedAt := now } := by
  obtain ⟨hcount, hroom, hsent⟩ := h.of_waiting hstatus
  obtain ⟨hdue, hshown⟩ := hfits
  have hnot : ∀ q : Payout, ¬ Fails (p, q) := by simp [Fails, hstatus]
  refine ⟨rfl, ?_, fun hfails => absurd hfails (hnot _), fun _ _ => ?_⟩
  · rw [if_neg (hnot _), Nat.add_zero]
    exact .processing rfl hcount (by omega) (by omega) fun _ => hsent
  · exact ⟨(Option.any_eq_true ..).mp hdue, hshown⟩

end Moves

/-- A chapter up to some entry: what is behind its opening, at the end of a log. -/
structure Chapter (policy : RetryPolicy) (id : PayoutId) (opened : Payout) (log : List Entry)
    (s : MemoryStore) (segment : List Entry) : Prop where
  standing : ∃ p, (storeAfter s segment).find? id = some p ∧ p.maxRetries = opened.maxRetries ∧
    Stands opened.maxRetries.toNat (failuresFrom id s segment).length
      (submissions id segment).length (Unsent log id) p
  booked : ∀ k (change : Payout × Payout), (failuresFrom id s segment)[k]? = some change →
    change.2.Booked policy opened.maxRetries.toNat (k + 1) ∧ ReadAt log change.2.updatedAt
  requeued : ∀ change ∈ changes id s segment, change.1.status = .retryScheduled →
    change.2.status = .processing → Requeued log change

theorem Requeued.mono {change : Payout × Payout} (h : Requeued log change) :
    Requeued (log ++ [e]) change where
  due := h.due
  shown := h.shown.mono (List.prefix_append ..)

theorem change?_eq_some_iff {s' : MemoryStore} {p q : Payout} :
    change? id s s' = some (p, q) ↔ s.find? id = some p ∧ s'.find? id = some q := by
  unfold change?
  cases s.find? id <;> cases s'.find? id <;> simp

theorem failuresFrom_append {change : Payout × Payout}
    (hchange : change? id (storeAfter s segment) e.store = some change) :
    failuresFrom id s (segment ++ [e]) =
      failuresFrom id s segment ++ if Fails change then [change] else [] := by
  rw [failuresFrom, changes_append, hchange, List.filter_append]
  by_cases hfails : Fails change <;> simp [failuresFrom, hfails]

theorem length_submissions_append :
    (submissions id (segment ++ [e])).length =
      (submissions id segment).length + if e.Submits id then 1 else 0 := by
  rw [submissions, List.filter_append, List.length_append]
  by_cases hsubmits : e.Submits id <;> simp [submissions, hsubmits]

namespace Chapter

variable {opened p q : Payout}

theorem extend (h : Chapter policy id opened log s segment)
    (hchange : change? id (storeAfter s segment) e.store = some (p, q))
    (hmax : q.maxRetries = opened.maxRetries)
    (hstands : Stands opened.maxRetries.toNat
      ((failuresFrom id s segment).length + if Fails (p, q) then 1 else 0)
      ((submissions id segment).length + if e.Submits id then 1 else 0)
      (Unsent (log ++ [e]) id) q)
    (hbooked : Fails (p, q) →
      q.Booked policy opened.maxRetries.toNat ((failuresFrom id s segment).length + 1) ∧
        ReadAt log q.updatedAt)
    (hrequeued : p.status = .retryScheduled → q.status = .processing → Requeued log (p, q)) :
    Chapter policy id opened (log ++ [e]) s (segment ++ [e]) where
  standing := by
    refine ⟨q, ?_, hmax, ?_⟩
    · rw [storeAfter_append]
      exact (change?_eq_some_iff.mp hchange).2
    · rw [length_submissions_append, failuresFrom_append hchange]
      by_cases hfails : Fails (p, q) <;> simpa [hfails] using hstands
  booked := by
    intro k change hk
    rw [failuresFrom_append hchange] at hk
    by_cases hlt : k < (failuresFrom id s segment).length
    · rw [List.getElem?_append_left hlt] at hk
      obtain ⟨hbook, hread⟩ := h.booked k change hk
      exact ⟨hbook, hread.mono (List.prefix_append ..)⟩
    · rw [List.getElem?_append_right (Nat.le_of_not_lt hlt)] at hk
      by_cases hfails : Fails (p, q)
      · rw [if_pos hfails, List.getElem?_singleton] at hk
        split at hk
        · rename_i hzero
          obtain rfl : k = (failuresFrom id s segment).length := by omega
          obtain ⟨hbook, hread⟩ := hbooked hfails
          exact Option.some.inj hk ▸ ⟨hbook, hread.mono (List.prefix_append ..)⟩
        · cases hk
      · simp [hfails] at hk
  requeued := by
    intro change hmem hscheduled hprocessing
    rw [changes_append, hchange, List.mem_append] at hmem
    rcases hmem with hmem | hmem
    · exact (h.requeued change hmem hscheduled hprocessing).mono
    · obtain rfl := Option.some.inj (Option.mem_toList.mp hmem)
      exact (hrequeued hscheduled hprocessing).mono

theorem not_unsent_append (hstore : e.store.find? id = (storeAfter .empty log).find? id) :
    Unsent (log ++ [e]) id → Unsent log id ∧ ¬ e.Submits id := by
  intro hunsent
  refine (unsent_append.mp hunsent).resolve_left ?_
  rintro ⟨⟨p, q⟩, hchange, henters⟩
  obtain ⟨hp, hq⟩ := change?_eq_some_iff.mp hchange
  rw [hstore, hp] at hq
  obtain rfl := Option.some.inj hq
  exact henters.1 henters.2

theorem extend_same (h : Chapter policy id opened log s segment)
    (hstore : storeAfter .empty log = storeAfter s segment)
    (hsame : e.store.find? id = (storeAfter .empty log).find? id)
    (hsubmits : e.Submits id → Unsent log id ∧
      ∃ p, (storeAfter .empty log).find? id = some p ∧ p.status = .processing) :
    Chapter policy id opened (log ++ [e]) s (segment ++ [e]) := by
  obtain ⟨p, hp, hmax, hstands⟩ := h.standing
  have hunsent := not_unsent_append hsame
  rw [hstore] at hsame hsubmits
  have hnot : ¬ Fails (p, p) := by
    rintro ⟨hprocessing, hstatus⟩
    change p.status = .processing at hprocessing
    simp [hprocessing] at hstatus
  refine h.extend (change?_eq_some_iff.mpr ⟨hp, hsame ▸ hp⟩) hmax ?_
    (fun hfails => absurd hfails hnot) fun hscheduled hprocessing => ?_
  · rw [if_neg hnot, Nat.add_zero]
    by_cases hsub : e.Submits id
    · obtain ⟨hbefore, p', hp', hprocessing⟩ := hsubmits hsub
      obtain rfl := Option.some.inj (hp.symm.trans hp')
      obtain ⟨hcount, hroom, -, hsent⟩ := hstands.of_processing hprocessing
      rw [if_pos hsub]
      exact .processing hprocessing hcount hroom (Nat.succ_le_succ (hsent hbefore))
        fun h => absurd hsub (hunsent h).2
    · rw [if_neg hsub, Nat.add_zero]
      exact hstands.imp fun h => (hunsent h).1
  · rw [hscheduled] at hprocessing
    cases hprocessing

theorem extend_moved {T : Transition} (h : Chapter policy id opened log s segment)
    (hstore : storeAfter .empty log = storeAfter s segment)
    (hp : (storeAfter .empty log).find? id = some p) (hq : e.store.find? id = some q)
    (hstart : T.StartsFrom p.status) (happly : T.apply p = some q)
    (hfits : Fits policy log p T) (hquiet : ¬ e.Submits id) (hopens : ¬ Opens (p, q)) :
    Chapter policy id opened (log ++ [e]) s (segment ++ [e]) := by
  obtain ⟨p', hp', hmax, hstands⟩ := h.standing
  rw [← hstore, hp] at hp'
  obtain rfl := Option.some.inj hp'
  have hchange := change?_eq_some_iff.mpr ⟨hp, hq⟩
  have hunsent : ¬ Enters (p, q) → Unsent (log ++ [e]) id → Unsent log id := by
    intro henters hunsent
    refine ((unsent_append.mp hunsent).resolve_left ?_).1
    rintro ⟨change, hmem, henters'⟩
    exact henters (Option.some.inj (hchange.symm.trans hmem) ▸ henters')
  rw [← hmax] at hstands
  have hmoves : Moves policy log p.maxRetries.toNat (failuresFrom id s segment).length
      (submissions id segment).length (Unsent (log ++ [e]) id) p q := by
    cases T with
    | claim now => exact absurd hstart hstands.status_ne_pending
    | submission hash now =>
        obtain rfl := Option.some.inj happly
        exact hstands.moves_submission hstart (hunsent fun henters => henters.1 hstart)
    | completion transactionRef ledgerRef now =>
        obtain rfl := Option.some.inj happly
        exact hstands.moves_completion hfits
    | failure reason used now =>
        obtain ⟨rfl, hread⟩ := hfits
        exact hstands.moves_failure hstart happly hread
    | requeue now =>
        obtain ⟨hscheduled, rfl⟩ := Payout.requeue_eq_ok (Transition.eq_ok_of_toOption happly)
        exact hstands.moves_requeue hscheduled hfits
    | reset defaultMaxRetries now =>
        obtain ⟨hfailed, rfl⟩ := Payout.resetForRetry_eq_ok (Transition.eq_ok_of_toOption happly)
        exact absurd ⟨.inr hfailed, rfl⟩ hopens
  rw [hmax] at hmoves
  rw [hstore] at hchange
  refine h.extend hchange (hmoves.maxRetries_eq.trans hmax) ?_ hmoves.booked hmoves.requeued
  rw [if_neg hquiet, Nat.add_zero]
  exact hmoves.stands

theorem append (h : Chapter policy id opened log s segment)
    (hstore : storeAfter .empty log = storeAfter s segment) (he : Happens policy log e id)
    (hopens : ∀ change ∈ change? id (storeAfter s segment) e.store, ¬ Opens change) :
    Chapter policy id opened (log ++ [e]) s (segment ++ [e]) := by
  cases he with
  | nothing same quiet => exact h.extend_same hstore same fun hsubmits => absurd hsubmits quiet
  | created free =>
      obtain ⟨p, hp, -⟩ := h.standing
      rw [hstore, hp] at free
      cases free
  | submitted found same status unsent =>
      exact h.extend_same hstore (same.trans found.symm) fun _ => ⟨unsent, _, found, status⟩
  | moved found written legal start applies fits quiet =>
      refine h.extend_moved hstore found written start applies fits quiet (hopens _ ?_)
      exact change?_eq_some_iff.mpr ⟨hstore ▸ found, written⟩

theorem retryCount_of_opens {T : Transition} (hopens : Opens (p, q)) (hlegal : p.Legal)
    (hstart : T.StartsFrom p.status) (happly : T.apply p = some q) (hfits : Fits policy log p T) :
    q.retryCount = 0 ∧ (p.status = .pending → q.maxRetries = p.maxRetries) ∧
      (p.status = .failed → q.maxRetries = policy.defaultMaxRetries) := by
  obtain ⟨hclosed, -⟩ := hopens
  change p.status = .pending ∨ p.status = .failed at hclosed
  cases T with
  | claim now =>
      obtain ⟨hpending, rfl⟩ := Payout.markClaimed_eq_ok (Transition.eq_ok_of_toOption happly)
      exact ⟨hlegal.pending hpending, fun _ => rfl, fun hfailed => by simp [hpending] at hfailed⟩
  | reset defaultMaxRetries now =>
      obtain ⟨hfailed, rfl⟩ := Payout.resetForRetry_eq_ok (Transition.eq_ok_of_toOption happly)
      exact ⟨rfl, fun hpending => by simp [hfailed] at hpending, fun _ => hfits⟩
  | submission hash now =>
      change p.status = .processing at hstart
      simp [hstart] at hclosed
  | completion transactionRef ledgerRef now =>
      change p.status = .processing at hfits
      simp [hfits] at hclosed
  | failure reason used now =>
      change p.status = .processing at hstart
      simp [hstart] at hclosed
  | requeue now =>
      change p.status = .retryScheduled at hstart
      simp [hstart] at hclosed

theorem start (hbefore : Happens policy before e id)
    (hchange : change? id (storeAfter .empty before) e.store = some (p, opened))
    (hopens : Opens (p, opened)) :
    opened.retryCount = 0 ∧ (p.status = .pending → opened.maxRetries = p.maxRetries) ∧
      (p.status = .failed → opened.maxRetries = policy.defaultMaxRetries) ∧
      Chapter policy id opened (before ++ [e]) e.store [] := by
  obtain ⟨hp, hopened⟩ := change?_eq_some_iff.mp hchange
  have hstart : opened.retryCount = 0 → Chapter policy id opened (before ++ [e]) e.store [] := by
    intro hzero
    have hstands : Stands opened.maxRetries.toNat 0 0 (Unsent (before ++ [e]) id) opened :=
      .processing hopens.2 (by rw [hzero]; rfl) (by omega) (by omega) fun _ => Nat.le_refl 0
    exact ⟨⟨opened, hopened, rfl, hstands⟩, by simp [failuresFrom, changes], by simp [changes]⟩
  have hsame : e.store.find? id ≠ (storeAfter .empty before).find? id := by
    intro hsame
    rw [hopened, hp] at hsame
    obtain rfl := Option.some.inj hsame
    obtain ⟨hstatus | hstatus, hprocessing⟩ := hopens
    all_goals exact absurd (hprocessing.symm.trans hstatus) (by simp)
  cases hbefore with
  | nothing same => exact absurd same hsame
  | created free =>
      rw [hp] at free
      cases free
  | submitted found same => exact absurd (same.trans found.symm) hsame
  | moved found written legal start applies fits =>
      obtain rfl := Option.some.inj (hp.symm.trans found)
      obtain rfl := Option.some.inj (hopened.symm.trans written)
      obtain ⟨hzero, hbudget⟩ := retryCount_of_opens hopens legal start applies fits
      exact ⟨hzero, hbudget.1, hbudget.2, hstart hzero⟩

end Chapter

theorem Orderly.happens {rest : List Entry} (h : Orderly policy (log ++ e :: rest))
    (id : PayoutId) : Happens policy log e id :=
  h log e ⟨rest, by simp⟩ id

theorem Orderly.of_append {rest : List Entry} (h : Orderly policy (log ++ rest)) :
    Orderly policy log := by
  intro before e hbefore
  exact h before e (hbefore.trans (List.prefix_append ..))

theorem Orderly.processing_of_submits {rest : List Entry} (h : Orderly policy (log ++ e :: rest))
    (hsubmits : e.Submits id) :
    ∃ p, e.store.find? id = some p ∧ p.status = .processing := by
  cases h.happens id with
  | submitted found same status => exact ⟨_, same, status⟩
  | nothing same quiet => exact absurd hsubmits quiet
  | created free found status quiet => exact absurd hsubmits quiet
  | moved found written legal start applies fits quiet => exact absurd hsubmits quiet

/-- What lies between two openings is a chapter. -/
theorem Orderly.chapter {opening : Entry} {p opened : Payout}
    (h : Orderly policy (before ++ opening :: segment))
    (hchange : change? id (storeAfter .empty before) opening.store = some (p, opened))
    (hopens : Opens (p, opened))
    (hsegment : ∀ change ∈ changes id opening.store segment, ¬ Opens change) :
    Chapter policy id opened (before ++ opening :: segment) opening.store segment := by
  induction segment using List.reverseRecOn with
  | nil => exact (Chapter.start (h.happens id) hchange hopens).2.2.2
  | append_singleton segment e ih =>
      rw [changes_append] at hsegment
      rw [← List.cons_append, ← List.append_assoc] at h ⊢
      refine (ih h.of_append fun change hmem => ?_).append storeAfter_append_cons (h.happens id)
        fun change hmem => ?_
      · exact hsegment change (List.mem_append_left _ hmem)
      · exact hsegment change (List.mem_append_right _ (Option.mem_toList.mpr hmem))

theorem opens_of_failed {p q : Payout} {T : Transition} (hfailed : p.status = .failed)
    (hstart : T.StartsFrom p.status) (happly : T.apply p = some q) (hfits : Fits policy log p T) :
    Opens (p, q) := by
  rw [hfailed] at hstart
  cases T with
  | reset defaultMaxRetries now =>
      obtain ⟨-, rfl⟩ := Payout.resetForRetry_eq_ok (Transition.eq_ok_of_toOption happly)
      exact ⟨.inr hfailed, rfl⟩
  | completion transactionRef ledgerRef now =>
      change p.status = .processing at hfits
      simp [hfailed] at hfits
  | claim _ | submission _ _ | failure _ _ _ | requeue _ => cases hstart

/-- A payout that has failed is left alone until the next chapter. -/
theorem Orderly.failed_stays {rest : List Entry} {q : Payout}
    (h : Orderly policy (log ++ rest)) (hq : (storeAfter .empty log).find? id = some q)
    (hfailed : q.status = .failed)
    (hopens : ∀ change ∈ changes id (storeAfter .empty log) rest, ¬ Opens change) :
    ∀ e ∈ rest, e.store.find? id = some q ∧ ¬ e.Submits id := by
  induction rest generalizing log with
  | nil => simp
  | cons e rest ih =>
      have hstays : e.store.find? id = some q ∧ ¬ e.Submits id := by
        cases h.happens id with
        | nothing same quiet => exact ⟨same.trans hq, quiet⟩
        | created free =>
            rw [hq] at free
            cases free
        | submitted found same status =>
            obtain rfl := Option.some.inj (hq.symm.trans found)
            simp [hfailed] at status
        | moved found written legal start applies fits quiet =>
            obtain rfl := Option.some.inj (hq.symm.trans found)
            refine absurd (opens_of_failed hfailed start applies fits) (hopens _ ?_)
            refine List.mem_append_left _ (Option.mem_toList.mpr ?_)
            exact change?_eq_some_iff.mpr ⟨found, written⟩
      intro e' he'
      rcases List.mem_cons.mp he' with rfl | he'
      · exact hstays
      · have hstore : storeAfter .empty (log ++ [e]) = e.store := storeAfter_append
        have hrest : Orderly policy (log ++ [e] ++ rest) := by simpa using h
        refine ih hrest (hstore ▸ hstays.1) ?_ e' he'
        intro change hmem
        exact hopens change (List.mem_append_right _ (hstore ▸ hmem))

end Engine

end Disburse
