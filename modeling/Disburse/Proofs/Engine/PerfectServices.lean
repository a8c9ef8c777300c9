import Disburse.Proofs.Engine.PerfectLedger
import Disburse.Proofs.Payout.Id

namespace Disburse.Engine

open Disburse.Task

variable {σ : Type}

variable {answer : Surroundings wiredInterface σ} {executor : Executor} {policy : RetryPolicy}
  {scene : Scene σ} {u u' : σ} {p : Payout}

/-- The envelopes that pay a payout. -/
def payments (id : PayoutId) (sent : List (Ledger.Envelope × String)) :
    List (Ledger.Envelope × String) :=
  sent.filter fun x => x.1.transfer?.map Ledger.Transfer.memo = some id.toText

/-- A payout for which nothing was sent. -/
def Unpaid (sent : List (Ledger.Envelope × String)) (p : Payout) : Prop :=
  p.retryCount = 0 ∧ payments p.id sent = []

/-- A payout that is completed under the hash of the only envelope that was sent for it. -/
def Paid (sent : List (Ledger.Envelope × String)) (p : Payout) : Prop :=
  p.status = .completed ∧ ∃ envelope hash, p.transactionRef = some hash ∧
    payments p.id sent = [(envelope, hash)]

/-- The books between two services. -/
structure Balanced (scene : Scene σ) (u : σ) : Prop where
  rows : ∀ p ∈ (scene.store u).rows, p.amount.IsPositive ∧
    ((p.status = .pending ∧ Unpaid (scene.sent u) p) ∨ Paid (scene.sent u) p)
  drawn : ∀ p ∈ (scene.store u).rows, p.id ∈ scene.drawn u
  sent : ∀ id, id ∉ scene.drawn u → payments id (scene.sent u) = []

theorem Balanced.status (h : Balanced scene u) (hp : p ∈ (scene.store u).rows) :
    p.status = .pending ∨ p.status = .completed := by
  obtain ⟨-, ⟨hpending, -⟩ | ⟨hcompleted, -⟩⟩ := h.rows p hp
  · exact .inl hpending
  · exact .inr hcompleted

theorem Balanced.findStale (h : Balanced scene u) (before : Instant) (limit : UInt32) :
    (scene.store u).findStale .processing before limit = [] := by
  refine List.eq_nil_iff_forall_not_mem.mpr fun p hp => ?_
  have hstatus := MemoryStore.status_of_mem_findStale hp
  rcases h.status (MemoryStore.mem_findStale hp) with hrow | hrow <;> simp [hrow] at hstatus

theorem Balanced.findDue (h : Balanced scene u) (now : Instant) (limit : UInt32) :
    (scene.store u).findDue .retryScheduled now limit = [] := by
  refine List.eq_nil_iff_forall_not_mem.mpr fun p hp => ?_
  obtain ⟨hmem, hstatus⟩ := MemoryStore.mem_findDue hp
  rcases h.status hmem with hrow | hrow <;> simp [hrow] at hstatus

theorem payments_append {id : PayoutId} {hash : String} {envelope : Ledger.Envelope}
    {t : Ledger.Transfer} {sent : List (Ledger.Envelope × String)} {payout : PayoutId}
    (htransfer : envelope.transfer? = some t) (hmemo : t.memo = payout.toText) :
    payments id (sent ++ [(envelope, hash)]) =
      payments id sent ++ if id = payout then [(envelope, hash)] else [] := by
  rw [payments, List.filter_append]
  by_cases hid : id = payout
  · simp [payments, htransfer, hmemo, hid]
  · have hne : payout.toText ≠ id.toText := fun h => hid (PayoutId.toText_injective h).symm
    simp [payments, htransfer, hmemo, hid, hne]

/-- One envelope was sent for a payout, and the payout completed under its hash. -/
def Pays (scene : Scene σ) (p : Payout) (u u' : σ) : Prop :=
  ∃ hash done, scene.Sends p.id.toText hash u u' ∧ p.SameOrigin done ∧
    done.status = .completed ∧ done.transactionRef = some hash ∧
    scene.store u' = (scene.store u).overwrite done

/-- One envelope was sent for a payout, and its attempt was booked as one that was not confirmed
in time. -/
def TimesOut (policy : RetryPolicy) (scene : Scene σ) (p : Payout) (u u' : σ) : Prop :=
  ∃ hash failed, scene.Sends p.id.toText hash u u' ∧
    Books policy (Error.confirmationTimeout hash 0).message p failed ∧
    scene.store u' = (scene.store u).overwrite failed

/-- A service that left everything as it was. -/
structure Idle (scene : Scene σ) (u u' : σ) (past : List (Exchange interface)) : Prop where
  store : scene.store u' = scene.store u
  same : scene.Same u u'
  dispatched : dispatched past = []

/-- A service that drew an identifier and has perhaps recorded a payout under it. -/
def Creates (scene : Scene σ) (u u' : σ) (past : List (Exchange interface)) : Prop :=
  ∃ p : Payout, p.amount.IsPositive ∧ p.status = .pending ∧ p.retryCount = 0 ∧
    dispatched past = [] ∧ scene.sent u' = scene.sent u ∧
    scene.drawn u' = scene.drawn u ++ [p.id] ∧
    (scene.store u' = scene.store u ∨ scene.store u' = (scene.store u).insert p)

theorem Scene.Sends.exists_sent {memo hash : String} (h : scene.Sends memo hash u u') :
    ∃ x ∈ scene.sent u', x.2 = hash := by
  obtain ⟨envelope, t, -, -, hsent⟩ := h.sent
  exact ⟨(envelope, hash), by simp [hsent], rfl⟩

/-- What a claim may come to: it is refused, or a pending payout is sent into processing. -/
def Claims (scene : Scene σ) (u : σ) (o : Outcome Payout) (u' : σ)
    (past : List (Exchange interface)) : Prop :=
  (Idle scene u u' past ∧ ∀ p, o ≠ .ok p) ∨
    ∃ row p now, o = .ok p ∧ row ∈ (scene.store u).rows ∧ row.markClaimed now = .ok p ∧
      dispatched past = [p.id] ∧ scene.Same u u' ∧ scene.store u' = (scene.store u).overwrite p

theorem Claims.of_same {o : Outcome Payout} {past : List (Exchange interface)} {u'' : σ}
    (h : Claims scene u' o u'' past) (hstore : scene.store u' = scene.store u)
    (hsame : scene.Same u u') : Claims scene u o u'' past := by
  obtain ⟨⟨hstore', hsame', hpast⟩, ho⟩ |
    ⟨row, p, now, ho, hrow, hclaim, hpast, hsame', hstore'⟩ := h
  · exact .inl ⟨⟨hstore'.trans hstore, hsame.trans hsame', hpast⟩, ho⟩
  · rw [hstore] at hrow hstore'
    exact .inr ⟨row, p, now, ho, hrow, hclaim, hpast, hsame.trans hsame', hstore'⟩

namespace Perfect

variable (perfect : Perfect answer scene)

include perfect

theorem same_store {c : StoreCall} : scene.Same u (serve executor answer (.store c) u).2 :=
  perfect.same_engine (by simp) (by simp)

theorem same_of_trace {α : Type} {t : Work α} {past : List (Exchange interface)}
    {Q : Outcome α → σ → List (Exchange interface) → Prop}
    (h : t.Ends (serve executor answer) Q u past) :
    t.Ends (serve executor answer) (fun o u' past' => Q o u' past' ∧
      ∃ xs, past' = past ++ xs ∧
        ((∀ x ∈ xs, x.request ≠ .freshId ∧ ∀ c, x.request ≠ .transfer c) → scene.Same u u'))
      u past :=
  Ends.related (I := interface) (R := scene.Same)
    (K := fun r => r ≠ .freshId ∧ ∀ c, r ≠ .transfer c) .refl .trans
    (fun _ _ hr => perfect.same_engine hr.1 hr.2) h

section Requests

variable {α : Type} {past : List (Exchange interface)}
  {Q : Outcome α → σ → List (Exchange interface) → Prop}

theorem now_bind {f : Instant → Work α}
    (h : ∀ t u', scene.store u' = scene.store u → scene.Same u u' →
      (f t).Ends (serve executor answer) Q u' (past ++ [⟨.now, t⟩])) :
    Task.Ends (serve executor answer) (now >>= f) Q u past := by
  have calm := perfect.calm executor
  rw [ends_bind, calm.ends_now]
  exact h _ _ calm.kept_now (perfect.same_engine (by simp) (by simp))

theorem freshId_bind {f : PayoutId → Work α}
    (h : ∀ id u', scene.store u' = scene.store u → scene.sent u' = scene.sent u →
      scene.drawn u' = scene.drawn u ++ [id] →
      (f id).Ends (serve executor answer) Q u' (past ++ [⟨.freshId, id⟩])) :
    Task.Ends (serve executor answer) (freshId >>= f) Q u past := by
  rw [ends_bind, ends_freshId]
  refine h _ _ ((perfect.calm executor).kept _ u (by simp)) ?_ (perfect.draws u)
  exact perfect.sent_kept (.engine .freshId) u (by simp)

theorem read_bind {c : StoreCall} {value : c.Value} {f : c.Value → Work α}
    (hread : c.isRead = true) (hanswer : ((scene.store u).answer c).1 = .ok value)
    (h : ∀ u', scene.store u' = scene.store u → scene.Same u u' →
      (f value).Ends (serve executor answer) Q u' (past ++ [⟨.store c, .ok value⟩])) :
    Task.Ends (serve executor answer) (store c >>= f) Q u past := by
  rw [ends_bind]
  refine (perfect.calm executor).ends_read hread fun u' hu' hstore => ?_
  rw [hanswer]
  exact h u' hstore (hu' ▸ perfect.same_store)

theorem load_bind {id : PayoutId} {f : Payout → Work α}
    (hfound : (scene.store u).find? id = some p)
    (h : ∀ u', scene.store u' = scene.store u → scene.Same u u' →
      (f p).Ends (serve executor answer) Q u' (past ++ [⟨.store (.get id), .ok (some p)⟩])) :
    Task.Ends (serve executor answer) (load id >>= f) Q u past := by
  rw [ends_bind]
  refine (perfect.calm executor).ends_load hfound fun u' hu' hstore => ?_
  exact h u' hstore (hu' ▸ perfect.same_store)

theorem submit_bind {request : TransferRequest} {f : Except Error String → Work α}
    (hpositive : request.amount.IsPositive)
    (h : ∀ hash u', scene.store u' = scene.store u → scene.Sends request.memo hash u u' →
      (f (.ok hash)).Ends (serve executor answer) Q u'
        (past ++ [⟨.transfer (.submit request), .ok hash⟩])) :
    Task.Ends (serve executor answer) (Task.attempt (transfer (.submit request)) >>= f) Q u
      past := by
  obtain ⟨hash, hsubmit, hsends⟩ := perfect.serve_submit executor u hpositive
  exact ends_transfer_ok hsubmit (h hash _ (perfect.calm executor).kept_transfer hsends)

theorem awaitConfirmation_bind {hash : String} {f : Except Error TransferReceipt → Work α}
    (hpolls : 0 < executor.config.maxPolls) (hsent : ∃ x ∈ scene.sent u, x.2 = hash)
    (h : ∀ ledger u', scene.store u' = scene.store u → scene.Same u u' →
      (f (.ok ⟨hash, ledger⟩)).Ends (serve executor answer) Q u'
        (past ++ [⟨.transfer (.awaitConfirmation hash), .ok ⟨hash, ledger⟩⟩])) :
    Task.Ends (serve executor answer) (Task.attempt (transfer (.awaitConfirmation hash)) >>= f) Q u
      past := by
  obtain ⟨ledger, hawait, hsame⟩ := perfect.serve_awaitConfirmation hpolls hsent
  exact ends_transfer_ok hawait (h ledger _ (perfect.calm executor).kept_transfer hsame)

end Requests

theorem ends_recordSubmission {hash : String} {past : List (Exchange interface)}
    (hfound : (scene.store u).find? p.id = some p) (hstatus : p.status = .processing) :
    (recordSubmission p hash).Ends (serve executor answer) (fun o u' _ =>
      ∃ now, o = .ok (p.markSubmitted hash now) ∧ scene.Same u u' ∧
        scene.store u' = (scene.store u).overwrite (p.markSubmitted hash now)) u past := by
  have calm := perfect.calm executor
  refine (perfect.same_of_trace (calm.ends_recordSubmission hfound hstatus)).imp ?_
  rintro o u' past' ⟨⟨now, rfl, hstore, rfl⟩, xs, hxs, hsame⟩
  obtain rfl := List.append_cancel_left hxs
  exact ⟨now, rfl, hsame (by simp [wonSwap]), hstore⟩

theorem ends_complete {receipt : TransferReceipt} {past : List (Exchange interface)}
    (hfound : (scene.store u).find? p.id = some p) (hstatus : p.status = .processing) :
    (complete p receipt).Ends (serve executor answer) (fun o u' _ =>
      ∃ done, o = .ok true ∧ Lands receipt p done ∧ scene.Same u u' ∧
        scene.store u' = (scene.store u).overwrite done) u past := by
  have calm := perfect.calm executor
  refine (perfect.same_of_trace (calm.ends_complete hfound hstatus)).imp ?_
  rintro o u' past' ⟨⟨done, hdone, rfl, hstore, rfl⟩, xs, hxs, hsame⟩
  have hlands : Lands receipt p done := hdone ▸ lands_markCompleted receipt p _
  obtain rfl := List.append_cancel_left hxs
  exact ⟨done, rfl, hlands, hsame (by simp [wonSwap]), hstore⟩

/-- An execution of a claimed payout sends one envelope, and completes the payout under its
hash. -/
theorem ends_execute {past : List (Exchange interface)} (hpolls : 0 < executor.config.maxPolls)
    (hfound : (scene.store u).find? p.id = some p) (hstatus : p.status = .processing)
    (hcount : p.retryCount = 0) (hpositive : p.amount.IsPositive) :
    (execute policy p.id).Ends (serve executor answer) (fun o u' _ =>
      o = .ok () ∧ Pays scene p u u') u past := by
  unfold execute
  refine perfect.load_bind hfound fun u₁ hstore₁ hsame₁ => ?_
  have hattempt : p.attempt? = some 1 := by
    rw [Payout.attempt?, hcount]
    decide
  rw [if_neg (by simp [hstatus]), hattempt]
  rw [ends_bind, ends_ofOutcome]
  refine perfect.submit_bind hpositive fun hash u₂ hstore₂ hsends => ?_
  have hstore₂ : scene.store u₂ = scene.store u := hstore₂.trans hstore₁
  have hfound₂ : (scene.store u₂).find? p.id = some p := by rwa [hstore₂]
  rw [ends_bind]
  refine (perfect.ends_recordSubmission hfound₂ hstatus).imp ?_
  rintro o u₃ past₃ ⟨now, rfl, hsame₃, hstore₃⟩
  have hsends₃ : scene.Sends p.id.toText hash u u₃ := (hsends.of_same hsame₁).same hsame₃
  refine perfect.awaitConfirmation_bind hpolls hsends₃.exists_sent
    fun ledger u₄ hstore₄ hsame₄ => ?_
  have hstore₄ : scene.store u₄ = (scene.store u).overwrite (p.markSubmitted hash now) := by
    rw [hstore₄, hstore₃, hstore₂]
  have hfound₄ : (scene.store u₄).find? (p.markSubmitted hash now).id =
      some (p.markSubmitted hash now) := by
    rw [hstore₄]
    exact MemoryStore.find?_overwrite_self hfound
  rw [ends_bind]
  refine (perfect.ends_complete hfound₄ hstatus).imp ?_
  rintro o u₅ past₅ ⟨done, rfl, hlands, hsame₅, hstore₅⟩
  have hsends₅ : scene.Sends p.id.toText hash u u₅ := (hsends₃.same hsame₄).same hsame₅
  have horigin : p.SameOrigin done := .trans (by constructor <;> rfl) hlands.origin
  rw [ends_pure]
  refine ⟨rfl, hash, done, hsends₅, horigin, hlands.status, hlands.transactionRef, ?_⟩
  rw [hstore₅, hstore₄, MemoryStore.overwrite_overwrite hlands.origin.id]

theorem pays_supervise (policy : RetryPolicy) (hpolls : 0 < executor.config.maxPolls)
    (hfound : (scene.store u).find? p.id = some p) (hstatus : p.status = .processing)
    (hcount : p.retryCount = 0) (hpositive : p.amount.IsPositive) :
    Pays scene p u ((supervise policy p.id).outcome.run (serve executor answer) u).2 := by
  have h : (supervise policy p.id).Ends (serve executor answer) (fun _ u' _ => Pays scene p u u')
      u [] := by
    rw [ends_supervise_iff]
    refine (perfect.ends_execute hpolls hfound hstatus hcount hpositive).imp ?_
    rintro o u' past' ⟨rfl, hpays⟩
    exact hpays
  exact h

theorem ends_failAttempt {past : List (Exchange interface)} {e : Error}
    (hfound : (scene.store u).find? p.id = some p) (hstatus : p.status = .processing)
    (hbudget : p.Budgeted)
    (hrange : ∀ v, policy.Schedules p.maxRetries (answer (.engine .now) v).1) :
    (failAttempt policy p e).Ends (serve executor answer) (fun o u' _ =>
      ∃ failed, o = .ok () ∧ Books policy e.message p failed ∧ scene.Same u u' ∧
        scene.store u' = (scene.store u).overwrite failed) u past := by
  have calm := perfect.calm executor
  unfold failAttempt
  rw [ends_bind]
  refine (perfect.same_of_trace (calm.ends_bookFailure hfound hbudget hstatus
    hrange)).imp ?_
  rintro o u' past' ⟨⟨failed, hbooks, rfl, hstore, now, rfl⟩, xs, hxs, hsame⟩
  obtain rfl := List.append_cancel_left hxs
  exact ends_pure.mpr ⟨failed, rfl, hbooks, hsame (by simp [wonSwap]), hstore⟩

/-- Without polls, an execution sends its envelope and does not learn what came of it. -/
theorem ends_execute_unpolled {past : List (Exchange interface)}
    (hpolls : executor.config.maxPolls = 0) (hfound : (scene.store u).find? p.id = some p)
    (hstatus : p.status = .processing) (hbudget : p.Budgeted) (hpositive : p.amount.IsPositive)
    (hrange : ∀ v, policy.Schedules p.maxRetries (answer (.engine .now) v).1) :
    (execute policy p.id).Ends (serve executor answer) (fun o u' _ =>
      o = .ok () ∧ TimesOut policy scene p u u') u past := by
  obtain ⟨attempt, hattempt⟩ := hbudget.exists_attempt? hstatus
  unfold execute
  refine perfect.load_bind hfound fun u₁ hstore₁ hsame₁ => ?_
  rw [if_neg (by simp [hstatus]), hattempt, ends_bind, ends_ofOutcome]
  refine perfect.submit_bind hpositive fun hash u₂ hstore₂ hsends₂ => ?_
  have hstore₂ : scene.store u₂ = scene.store u := hstore₂.trans hstore₁
  have hfound₂ : (scene.store u₂).find? p.id = some p := by rwa [hstore₂]
  dsimp only
  rw [ends_bind]
  refine (perfect.ends_recordSubmission hfound₂ hstatus).imp ?_
  rintro o u₃ past₃ ⟨now, rfl, hsame₃, hstore₃⟩
  rw [hstore₂] at hstore₃
  have hawait : serve executor answer (.transfer (.awaitConfirmation hash)) u₃ =
      (.error (.error (.confirmationTimeout hash 0)), u₃) :=
    serve_awaitConfirmation_unpolled hpolls u₃
  refine ends_transfer_error (congrArg Prod.fst hawait) ?_
  rw [hawait]
  have hfound₃ : (scene.store u₃).find? (p.markSubmitted hash now).id =
      some (p.markSubmitted hash now) := by
    rw [hstore₃]
    exact MemoryStore.find?_overwrite_self hfound
  refine (perfect.ends_failAttempt hfound₃ hstatus (hbudget.markSubmitted hstatus) hrange).imp ?_
  rintro o u₄ past₄ ⟨failed, rfl, hbooks, hsame₄, hstore₄⟩
  have hsends : scene.Sends p.id.toText hash u u₄ :=
    ((hsends₂.of_same hsame₁).same hsame₃).same hsame₄
  have horigin : p.SameOrigin failed := .trans (by constructor <;> rfl) hbooks.origin
  refine ⟨rfl, hash, failed, hsends, { hbooks with origin := horigin }, ?_⟩
  rw [hstore₄, hstore₃]
  exact MemoryStore.overwrite_overwrite hbooks.origin.id

theorem timesOut_supervise (hpolls : executor.config.maxPolls = 0)
    (hfound : (scene.store u).find? p.id = some p) (hstatus : p.status = .processing)
    (hbudget : p.Budgeted) (hpositive : p.amount.IsPositive)
    (hrange : ∀ v, policy.Schedules p.maxRetries (answer (.engine .now) v).1) :
    TimesOut policy scene p u
      ((supervise policy p.id).outcome.run (serve executor answer) u).2 := by
  have h : (supervise policy p.id).Ends (serve executor answer)
      (fun _ u' _ => TimesOut policy scene p u u') u [] := by
    rw [ends_supervise_iff]
    refine (perfect.ends_execute_unpolled hpolls hfound hstatus hbudget hpositive hrange).imp ?_
    rintro o u' past' ⟨rfl, htimesOut⟩
    exact htimesOut
  exact h

theorem ends_retryPayout {id : PayoutId} (hbalanced : Balanced scene u) :
    (retryPayout policy id).Ends (serve executor answer) (fun _ u' past => Idle scene u u' past)
      u [] := by
  unfold retryPayout
  cases hfind : (scene.store u).find? id with
  | none =>
      rw [ends_bind]
      refine (perfect.calm executor).ends_load_none hfind fun u₁ hu₁ hstore₁ => ?_
      exact ⟨hstore₁, hu₁ ▸ perfect.same_store, rfl⟩
  | some p =>
      refine perfect.load_bind hfind fun u₁ hstore₁ hsame₁ => ?_
      refine perfect.now_bind fun t u₂ hstore₂ hsame₂ => ?_
      have hstatus : p.status ≠ .failed := by
        rcases hbalanced.status (MemoryStore.mem_of_find? hfind) with h | h <;> simp [h]
      rw [Payout.resetForRetry, if_neg hstatus, ends_bind, ends_ofOutcome]
      exact ⟨hstore₂.trans hstore₁, hsame₁.trans hsame₂, rfl⟩

theorem ends_sweep {config : SchedulerConfig} (hbalanced : Balanced scene u) :
    (sweep policy config).Ends (serve executor answer) (fun _ u' past => Idle scene u u' past)
      u [] := by
  unfold sweep
  refine perfect.now_bind fun t u₁ hstore₁ hsame₁ => ?_
  rw [ends_bind, recoverStuck, ends_bind, ends_ofOutcome]
  cases hbefore : t.sub? config.stuckAfter with
  | none => exact ⟨hstore₁, hsame₁, rfl⟩
  | some before =>
      have hstale : ((scene.store u₁).answer (.findStale .processing before config.batchSize)).1 =
          .ok [] := by
        rw [hstore₁]
        exact congrArg Except.ok (hbalanced.findStale before config.batchSize)
      refine perfect.read_bind rfl hstale fun u₂ hstore₂ hsame₂ => ends_pure.mpr ?_
      have hdue : ((scene.store u₂).answer (.findDue .retryScheduled t config.batchSize)).1 =
          .ok [] := by
        rw [hstore₂, hstore₁]
        exact congrArg Except.ok (hbalanced.findDue t config.batchSize)
      refine perfect.read_bind rfl hdue fun u₃ hstore₃ hsame₃ => ends_pure.mpr ?_
      exact ⟨hstore₃.trans (hstore₂.trans hstore₁), (hsame₁.trans hsame₂).trans hsame₃, rfl⟩

theorem ends_create {past : List (Exchange interface)} :
    Task.Ends (serve executor answer) (do store (.create p); return p) (fun _ u' past' =>
      scene.Same u u' ∧ dispatched past' = dispatched past ∧
        (scene.store u' = scene.store u ∨ scene.store u' = (scene.store u).insert p)) u past := by
  have hcreated : scene.store (serve executor answer (.store (.create p)) u).2 = scene.store u ∨
      scene.store (serve executor answer (.store (.create p)) u).2 = (scene.store u).insert p := by
    have hstored := perfect.stored (.create p) u
    rcases (scene.store u).create_cases p with h | h
    · exact .inr (hstored.trans h)
    · exact .inl (hstored.trans h)
  rw [ends_bind, ends_store]
  cases (serve executor answer (.store (.create p)) u).1 with
  | error e => exact ⟨perfect.same_store, by simp [dispatched], hcreated⟩
  | ok _ => exact ends_pure.mpr ⟨perfect.same_store, by simp [dispatched], hcreated⟩

/-- A creation draws an identifier, and refuses the payout or records it under that. -/
theorem ends_createPayout {new : NewPayout} :
    (createPayout policy new).Ends (serve executor answer) (fun _ u' past =>
      Idle scene u u' past ∨ Creates scene u u' past) u [] := by
  unfold createPayout
  rw [ends_bind, ends_ofOutcome]
  cases hvalid : new.validate with
  | error e => exact .inl ⟨rfl, .refl u, rfl⟩
  | ok valid =>
      have hpositive : new.amount.IsPositive := NewPayout.isPositive_of_validate hvalid
      refine perfect.freshId_bind fun id u₁ hstore₁ hsent₁ hdrawn₁ => ?_
      refine perfect.now_bind fun t u₂ hstore₂ hsame₂ => ?_
      refine perfect.ends_create.imp ?_
      rintro o u₃ past₃ ⟨hsame₃, hdispatched, hstore₃⟩
      refine .inr ⟨.ofNew new id policy.defaultMaxRetries t, hpositive, rfl, rfl, hdispatched,
        ?_, ?_, ?_⟩
      · rw [hsame₃.sent, hsame₂.sent, hsent₁]
      · rw [hsame₃.drawn, hsame₂.drawn, hdrawn₁]
        rfl
      · rwa [hstore₂, hstore₁] at hstore₃

theorem ends_claim_swap {row claimed : Payout} {t : Instant} {lost : Work Payout}
    {past : List (Exchange interface)} (hrow : row ∈ (scene.store u).rows)
    (hclaim : row.markClaimed t = .ok claimed) (hpast : dispatched past = []) :
    Task.Ends (serve executor answer) (do
      if ← store (.saveIf claimed .pending) then
        dispatch row.id
        return claimed
      else lost) (Claims scene u) u past := by
  have calm := perfect.calm executor
  have hid : claimed.id = row.id := (Transition.sameOrigin_of_markClaimed hclaim).id
  have hfound : (scene.store u).find? claimed.id = some row := by
    rw [hid]
    exact MemoryStore.find?_of_mem hrow
  rw [ends_bind]
  refine calm.ends_saveIf hfound (Payout.markClaimed_eq_ok hclaim).1 fun u₁ hu₁ hstore₁ => ?_
  simp only [if_true, ends_bind, ends_dispatch, ends_pure]
  refine .inr ⟨row, claimed, t, rfl, hrow, hclaim, ?_, ?_, ?_⟩
  · rw [dispatched_append, dispatched_append, hpast, hid]
    rfl
  · exact Scene.Same.trans (hu₁ ▸ perfect.same_store) (perfect.same_engine (by simp) (by simp))
  · rw [calm.kept _ u₁ (by simp), hstore₁]

theorem ends_claimPayout {submissionRef recipient : String} :
    (claimPayout submissionRef recipient).Ends (serve executor answer) (Claims scene u) u [] := by
  have calm := perfect.calm executor
  unfold claimPayout
  rw [ends_bind]
  refine calm.ends_read rfl fun u₁ hu₁ hstore₁ => ?_
  have hsame₁ : scene.Same u u₁ := hu₁ ▸ perfect.same_store
  have hrefused : ∀ e past, dispatched past = [] → Claims scene u (.error e) u₁ past :=
    fun e past hpast => .inl ⟨⟨hstore₁, hsame₁, hpast⟩, by simp⟩
  cases hfind : (scene.store u).findSubmission? submissionRef with
  | none =>
      have hanswer : ((scene.store u).answer (.findBySubmission submissionRef)).1 = .ok none :=
        congrArg Except.ok hfind
      rw [hanswer]
      exact ends_fail.mpr (hrefused _ _ rfl)
  | some row =>
      have hanswer : ((scene.store u).answer (.findBySubmission submissionRef)).1 =
          .ok (some row) := congrArg Except.ok hfind
      rw [hanswer]
      dsimp only [Outcome.ofExcept]
      split
      · exact hrefused _ _ rfl
      rename_i hclaimable
      rw [Bool.not_eq_true, Bool.not_eq_false] at hclaimable
      split
      · exact hrefused _ _ rfl
      refine perfect.now_bind fun t u₂ hstore₂ hsame₂ => ?_
      obtain ⟨claimed, hclaim⟩ := Payout.exists_markClaimed hclaimable t
      rw [hclaim]
      have hstore₂ : scene.store u₂ = scene.store u := hstore₂.trans hstore₁
      have hrow : row ∈ (scene.store u₂).rows := by
        rw [hstore₂]
        exact MemoryStore.mem_of_findSubmission? hfind
      refine (perfect.ends_claim_swap hrow hclaim rfl).imp fun o u₃ past₃ hclaims => ?_
      exact hclaims.of_same hstore₂ (hsame₁.trans hsame₂)

end Perfect

end Disburse.Engine
