import Disburse.Proofs.Engine.Budget
import Disburse.Proofs.Engine.Recovery
import Disburse.Proofs.Engine.Troubled
import Disburse.Proofs.Store.Batch

/-!
One sweep from its start to its end, in trouble of any kind. It recovers the records of one batch
and then requeues those of another one, each by itself: what becomes of a record is decided by the
record and by what its own requests are answered.
-/

namespace Disburse.Engine

open Disburse.Code Disburse.Task

variable {σ ρ : Type} {answer : Surroundings interface σ} {view : σ → MemoryStore} {u : σ}
  {policy : RetryPolicy} {p q : Payout} {ps qs : List Payout} {id : PayoutId}
  {past xs : List (Exchange interface)} {s s' : MemoryStore}

/-- Visits to some records in their order: the requests of each of them behind those of the ones
before, and what each of them gives. -/
inductive Each (visit : Payout → MemoryStore → List (Exchange interface) → ρ → MemoryStore → Prop) :
    List Payout → MemoryStore → List (Exchange interface) → List ρ → MemoryStore → Prop where
  | nil (s : MemoryStore) : Each visit [] s [] [] s
  | cons {p : Payout} {ps : List Payout} {s s₁ s' : MemoryStore}
      {xs ys : List (Exchange interface)} {result : ρ} {results : List ρ}
      (first : visit p s xs result s₁) (rest : Each visit ps s₁ ys results s') :
    Each visit (p :: ps) s (xs ++ ys) (result :: results) s'

namespace Each

variable {visit : Payout → MemoryStore → List (Exchange interface) → ρ → MemoryStore → Prop}
  {results : List ρ}

theorem length (h : Each visit ps s xs results s') : results.length = ps.length := by
  induction h with
  | nil _ => rfl
  | cons _ _ ih => simp [ih]

theorem find?_of_not_mem (h : Each visit ps s xs results s')
    (hvisit : ∀ p s xs result s', visit p s xs result s' →
      ∀ id, id ≠ p.id → s'.find? id = s.find? id)
    (hid : id ∉ ps.map Payout.id) : s'.find? id = s.find? id := by
  induction h with
  | nil s => rfl
  | cons first _ ih =>
      rw [List.map_cons, List.mem_cons, not_or] at hid
      rw [ih hid.2, hvisit _ _ _ _ _ first id hid.1]

end Each

/-- The recovery of a record: its requests, its result and the store behind it. -/
structure Recovered (policy : RetryPolicy) (p : Payout) (s : MemoryStore)
    (xs : List (Exchange interface)) (result : Outcome (Option Status)) (s' : MemoryStore) :
    Prop where
  course : (recover policy p.id).outcome.Reaches xs (.done result)
  /-- Its own answers decide what it asks and how it ends. -/
  decided : ∀ ys result', (recover policy p.id).outcome.Reaches ys (.done result') →
    AnsweredAlike xs ys → xs = ys ∧ result = result'
  /-- It finds the record as it was chosen, whatever became of those before it. -/
  found : ∃ a rest, xs = ⟨.store (.get p.id), a⟩ :: rest ∧ (a = .ok (some p) ∨ ∃ e, a = .error e)
  returns : result ≠ .error .crash
  reported : ∀ status, result = .ok status → Reported p.id status s'
  others : ∀ id, id ≠ p.id → s'.find? id = s.find? id
  silent : dispatched xs = []

theorem Troubled.in_scope (troubled : Troubled answer view) (past : List (Exchange interface))
    (r : Request) (u' : σ)
    (hothers : ∀ other, other ≠ id → (view u').find? other = (view u).find? other)
    (hallows : (scope (· = id) fun _ => False).allows past r) :
    (scope (· = id) fun _ => False).faithful ⟨r, (answer r u').1⟩ ∧
      ∀ other, other ≠ id → (view (answer r u').2).find? other = (view u).find? other := by
  have hquiet : (∀ c, r = .store c → c.isRead = true) →
      ∀ other, other ≠ id → (view (answer r u').2).find? other = (view u).find? other := by
    intro hread other hne
    rw [troubled.kept r u' hread, hothers other hne]
  cases r with
  | store c =>
      cases c with
      | get id' =>
          refine ⟨fun p hp => ?_, hquiet fun c hc => by cases hc; rfl⟩
          obtain rfl : id' = id := hallows
          rcases troubled.got id' u' with hfound | ⟨e, herror⟩
          · rw [hfound] at hp
            exact MemoryStore.find?_id (Option.mem_toList.mp hp)
          · rw [herror] at hp
            cases hp
      | saveIf p expected =>
          refine ⟨fun _ hp => absurd hp List.not_mem_nil, fun other hne => ?_⟩
          obtain rfl : p.id = id := hallows
          rw [(troubled.swapped p expected u').find?_of_ne hne, hothers other hne]
      | create _ | findBySubmission _ | save _ | findDue _ _ _ | findStale _ _ _ | list _ =>
          exact hallows.elim
  | transfer _ | now | freshId | publish _ | dispatch _ | pause _ =>
      exact ⟨fun _ hp => absurd hp List.not_mem_nil, hquiet (by simp)⟩

theorem Troubled.ends_recover (troubled : Troubled answer view)
    (hfound : (view u).find? p.id = some p) (hbudget : p.Budgeted)
    (hrange : ∀ u, policy.Schedules p.maxRetries (answer .now u).1)
    (past : List (Exchange interface)) :
    (Engine.recover policy p.id).Ends answer (fun o u' past' =>
      ∃ xs, past' = past ++ xs ∧ Recovered policy p (view u) xs o (view u')) u past := by
  have hrow : ∀ q, (view u).find? p.id = some q → q.Budgeted ∧
      ∀ u, policy.Schedules q.maxRetries (answer .now u).1 := by
    intro q hq
    obtain rfl := Option.some.inj (hfound.symm.trans hq)
    exact ⟨hbudget, hrange⟩
  have hminds :
      (scope (· = p.id) fun _ => False).Minds (Engine.recover policy p.id) fun _ => True :=
    scope.recover rfl
  have hscope := (hminds past).ends
    (fun past r u' hothers hallows => troubled.in_scope (u := u) past r u' hothers hallows)
    fun _ _ => rfl
  have hsurvives := troubled.recover hrow past
  have hcourse := Program.reaches_trace answer (Engine.recover policy p.id).outcome u
  obtain ⟨-, hothers, xs, hxs, hallowed⟩ := hscope
  obtain rfl := List.append_cancel_left hxs
  refine ⟨_, rfl, {
    course := hcourse
    decided := fun _ _ h halike => hcourse.unique h halike
    found := ⟨_, _, rfl, ?_⟩
    returns := ?_
    reported := ?_
    others := hothers
    silent := ?_ }⟩
  · rw [← hfound]
    exact troubled.got p.id u
  · intro hcrash
    rcases hsurvives with ⟨a, ha, -⟩ | ⟨e, he⟩
    · cases hcrash.symm.trans ha
    · cases hcrash.symm.trans he
  · intro status hstatus
    rcases hsurvives with ⟨a, ha, hreported⟩ | ⟨e, he⟩
    · cases hstatus.symm.trans ha
      exact hreported
    · cases hstatus.symm.trans he
  · exact scope.dispatched_eq_nil (fun _ h => h) hallowed

/-- The recovery wrote, or found, how the attempt of its record went. -/
def isSettled : Outcome (Option Status) → Bool
  | .ok (some _) => true
  | _ => false

theorem Troubled.ends_recoverEach (troubled : Troubled answer view)
    (hids : (ps.map Payout.id).Nodup)
    (hps : ∀ p ∈ ps, (view u).find? p.id = some p ∧ p.Budgeted ∧
      ∀ u, policy.Schedules p.maxRetries (answer .now u).1)
    (past : List (Exchange interface)) :
    (recoverEach policy ps).Ends answer (fun o u' past' => ∃ xs results,
      o = .ok (results.countP isSettled) ∧ past' = past ++ xs ∧
        Each (Recovered policy) ps (view u) xs results (view u')) u past := by
  induction ps generalizing u past with
  | nil => exact ends_pure.mpr ⟨[], [], rfl, (List.append_nil past).symm, .nil _⟩
  | cons p ps ih =>
      rw [List.map_cons, List.nodup_cons] at hids
      obtain ⟨⟨hfound, hbudget, hrange⟩, hps⟩ := List.forall_mem_cons.mp hps
      unfold recoverEach
      rw [ends_bind, ends_attempt]
      refine (troubled.ends_recover hfound hbudget hrange past).imp ?_
      rintro result u₁ _ ⟨xs, rfl, hrecovered⟩
      -- A visit leaves the other records alone, so that they are as the next visits need them.
      have hrest : ∀ q ∈ ps, (view u₁).find? q.id = some q ∧ q.Budgeted ∧
          ∀ u, policy.Schedules q.maxRetries (answer .now u).1 := by
        intro q hq
        have hne : q.id ≠ p.id := fun h => hids.1 (h ▸ List.mem_map_of_mem hq)
        rw [hrecovered.others q.id hne]
        exact hps q hq
      have hnext := ih hids.2 hrest (past ++ xs)
      rcases result with (e | _) | settled
      · dsimp only
        rw [ends_bind]
        refine hnext.imp ?_
        rintro _ u' _ ⟨ys, results, rfl, rfl, heach⟩
        exact ends_pure.mpr ⟨xs ++ ys, .error (.error e) :: results, rfl,
          List.append_assoc .., .cons hrecovered heach⟩
      · exact absurd rfl hrecovered.returns
      · dsimp only
        rw [ends_bind]
        refine hnext.imp ?_
        rintro _ u' _ ⟨ys, results, rfl, rfl, heach⟩
        cases settled with
        | none =>
            exact ends_pure.mpr ⟨xs ++ ys, .ok none :: results, rfl, List.append_assoc ..,
              .cons hrecovered heach⟩
        | some status =>
            exact ends_pure.mpr ⟨xs ++ ys, .ok (some status) :: results,
              by rw [List.countP_cons_of_pos rfl], List.append_assoc .., .cons hrecovered heach⟩

theorem Each.dispatched_recovered {results : List (Outcome (Option Status))}
    (h : Each (Recovered policy) ps s xs results s') : dispatched xs = [] := by
  induction h with
  | nil _ => rfl
  | cons first _ ih => rw [dispatched_append, first.silent, ih, List.append_nil]

/-- A due record that is back in processing. -/
def requeued (now : Instant) (q : Payout) : Payout :=
  { q with status := .processing, nextRetryAt := none, updatedAt := now }

/-- The attempt to send a due record back to processing: its requests, what its swap is answered
and the store behind it. -/
structure Resumed (now : Instant) (q : Payout) (s : MemoryStore)
    (xs : List (Exchange interface)) (swapped : Except Error Bool) (s' : MemoryStore) : Prop where
  /-- The answer to the swap decides alone: if it is won, the record is dispatched, once. -/
  asked : xs = ⟨.store (.saveIf (requeued now q) .retryScheduled), swapped⟩ ::
    if swapped = .ok true then [⟨.dispatch q.id, ()⟩] else []
  swap : SwapEnds s (requeued now q) .retryScheduled swapped s'

namespace Resumed

variable {now : Instant} {swapped : Except Error Bool}

theorem stored (h : Resumed now q s xs swapped s') (hwon : swapped = .ok true) :
    s'.find? q.id = some (requeued now q) :=
  (hwon ▸ h.swap).find?_of_won

theorem others (h : Resumed now q s xs swapped s') (hid : id ≠ q.id) :
    s'.find? id = s.find? id :=
  h.swap.find?_of_ne hid

theorem dispatched (h : Resumed now q s xs swapped s') :
    dispatched xs = if swapped = .ok true then [q.id] else [] := by
  rw [h.asked]
  split
  all_goals rfl

end Resumed

/-- A report in which the answer to one more swap is counted. -/
def SweepReport.book (report : SweepReport) : Except Error Bool → SweepReport
  | .ok true => { report with dispatched := report.dispatched + 1 }
  | .ok false => { report with skipped := report.skipped + 1 }
  | .error _ => { report with errors := report.errors + 1 }

theorem SweepReport.foldl_book (report : SweepReport) (swaps : List (Except Error Bool)) :
    swaps.foldl book report =
      { recovered := report.recovered
        dispatched := report.dispatched + swaps.count (.ok true)
        skipped := report.skipped + swaps.count (.ok false)
        errors := report.errors + swaps.countP (·.toOption.isNone) } := by
  induction swaps generalizing report with
  | nil => rfl
  | cons swapped swaps ih =>
      rw [List.foldl_cons, ih]
      rcases swapped with e | _ | _
      all_goals simp [book, Except.toOption, Nat.add_assoc, Nat.add_comm 1]

theorem Troubled.ends_requeueOne (troubled : Troubled answer view) {now : Instant}
    (hstatus : q.status = .retryScheduled) (report : SweepReport)
    (past : List (Exchange interface)) :
    (requeueOne now q report).Ends answer (fun o u' past' => ∃ xs swapped,
      o = .ok (report.book swapped) ∧ past' = past ++ xs ∧
        Resumed now q (view u) xs swapped (view u')) u past := by
  have hrequeue : q.requeue now = .ok (requeued now q) := if_pos hstatus
  unfold requeueOne
  rw [hrequeue]
  rw [ends_bind, ends_attempt, ends_store]
  have hswap := troubled.swapped (requeued now q) .retryScheduled u
  generalize (answer (.store (.saveIf (requeued now q) .retryScheduled)) u).2 = u₁ at hswap ⊢
  generalize (answer (.store (.saveIf (requeued now q) .retryScheduled)) u).1 = swapped at hswap ⊢
  rcases swapped with e | _ | _
  · exact ends_pure.mpr ⟨_, .error e, rfl, rfl, rfl, hswap⟩
  · exact ends_pure.mpr ⟨_, .ok false, rfl, rfl, rfl, hswap⟩
  · dsimp only [Outcome.ofExcept]
    rw [ends_bind, ends_dispatch]
    dsimp only
    rw [ends_pure]
    refine ⟨_, .ok true, rfl, List.append_assoc .., rfl, ?_⟩
    rw [troubled.kept (.dispatch q.id) u₁ (by simp)]
    exact hswap

theorem Troubled.ends_requeueEach (troubled : Troubled answer view) {now : Instant}
    (hqs : ∀ q ∈ qs, q.status = .retryScheduled) (report : SweepReport)
    (past : List (Exchange interface)) :
    (requeueEach now qs report).Ends answer (fun o u' past' => ∃ xs swaps,
      o = .ok (swaps.foldl SweepReport.book report) ∧ past' = past ++ xs ∧
        Each (Resumed now) qs (view u) xs swaps (view u')) u past := by
  induction qs generalizing u report past with
  | nil => exact ends_pure.mpr ⟨[], [], rfl, (List.append_nil past).symm, .nil _⟩
  | cons q qs ih =>
      obtain ⟨hq, hqs⟩ := List.forall_mem_cons.mp hqs
      unfold requeueEach
      rw [ends_bind]
      refine (troubled.ends_requeueOne hq report past).imp ?_
      rintro _ u₁ _ ⟨xs, swapped, rfl, rfl, hrequeued⟩
      refine (ih hqs (report.book swapped) (past ++ xs)).imp ?_
      rintro _ u' _ ⟨ys, swaps, rfl, rfl, heach⟩
      exact ⟨xs ++ ys, swapped :: swaps, rfl, List.append_assoc .., .cons hrequeued heach⟩

/-- The records whose swaps were won are the ones that are dispatched. -/
theorem Each.dispatched_resumed {now : Instant} {swaps : List (Except Error Bool)}
    (h : Each (Resumed now) qs s xs swaps s') :
    dispatched xs = ((qs.zip swaps).filter (·.2 = .ok true)).map (·.1.id) := by
  induction h with
  | nil _ => rfl
  | @cons q qs _ _ _ xs ys swapped swaps first _ ih =>
      rw [dispatched_append, first.dispatched, ih, List.zip_cons_cons, List.filter_cons]
      by_cases hwon : swapped = .ok true
      all_goals simp [hwon]

theorem Each.mem_of_dispatched {now : Instant} {swaps : List (Except Error Bool)}
    (h : Each (Resumed now) qs s xs swaps s') (hid : id ∈ dispatched xs) :
    id ∈ qs.map Payout.id := by
  rw [h.dispatched_resumed, List.mem_map] at hid
  obtain ⟨⟨q, swapped⟩, hq, rfl⟩ := hid
  exact List.mem_map_of_mem (List.of_mem_zip (List.mem_of_mem_filter hq)).1

theorem Each.nodup_dispatched {now : Instant} {swaps : List (Except Error Bool)}
    (h : Each (Resumed now) qs s xs swaps s') (hids : (qs.map Payout.id).Nodup) :
    (dispatched xs).Nodup := by
  rw [h.dispatched_resumed]
  have hqs : (qs.zip swaps).map (·.1.id) = qs.map Payout.id :=
    calc (qs.zip swaps).map (·.1.id) = ((qs.zip swaps).map Prod.fst).map Payout.id :=
          List.map_map.symm
      _ = qs.map Payout.id := by rw [List.map_fst_zip h.length.ge]
  rw [← hqs] at hids
  exact hids.sublist (List.filter_sublist.map _)

theorem Each.stored_resumed {now : Instant} {swaps : List (Except Error Bool)}
    (h : Each (Resumed now) qs s xs swaps s') (hids : (qs.map Payout.id).Nodup) :
    ∀ q ∈ qs, q.id ∈ dispatched xs → s'.find? q.id = some (requeued now q) := by
  induction h with
  | nil _ => simp
  | @cons q qs s s₁ s' xs ys swapped swaps first rest ih =>
      rw [List.map_cons, List.nodup_cons] at hids
      have hothers : s'.find? q.id = s₁.find? q.id :=
        rest.find?_of_not_mem (fun _ _ _ _ _ h _ => h.others) hids.1
      intro q' hq' hdispatched
      rw [dispatched_append, first.dispatched, List.mem_append] at hdispatched
      rcases List.mem_cons.mp hq' with rfl | hq'
      · rw [hothers]
        refine first.stored ?_
        rcases hdispatched with hfirst | hrest
        · by_contra hlost
          simp [hlost] at hfirst
        · exact absurd (rest.mem_of_dispatched hrest) hids.1
      · refine ih hids.2 q' hq' ?_
        rcases hdispatched with hfirst | hrest
        · have hne : q'.id ≠ q.id := fun h => hids.1 (h ▸ List.mem_map_of_mem hq')
          split at hfirst
          · exact absurd (List.mem_singleton.mp hfirst) hne
          · cases hfirst
        · exact hrest

theorem length_swaps (swaps : List (Except Error Bool)) :
    swaps.count (.ok true) + swaps.count (.ok false) + swaps.countP (·.toOption.isNone) =
      swaps.length := by
  induction swaps with
  | nil => rfl
  | cons swapped swaps ih =>
      rw [List.length_cons, ← ih]
      rcases swapped with e | _ | _
      all_goals simp [Except.toOption, Nat.add_assoc, Nat.add_comm 1]

/-- The records that are left in processing for too long are recovered. -/
theorem Troubled.ends_recoverStuck (troubled : Troubled answer view) {config : SchedulerConfig}
    {now before : Instant} (hbefore : now.sub? config.stuckAfter = some before)
    (hrows : ∀ p ∈ (view u).rows, p.Budgeted)
    (hrange : ∀ p ∈ (view u).rows, p.isStale before = true →
      ∀ u', policy.Schedules p.maxRetries (answer .now u').1)
    (past : List (Exchange interface)) :
    (recoverStuck policy config now).Ends answer (fun o u' past' => ∃ stale xs results,
      o = .ok (results.countP isSettled) ∧
        past' = past ++
          ⟨.store (.findStale .processing before config.batchSize), .ok stale⟩ :: xs ∧
        Payout.IsBatch (fun p => some p.updatedAt) (Payout.isStale before) config.batchSize
          (view u).rows stale ∧
        Each (Recovered policy) stale (view u) xs results (view u')) u past := by
  obtain ⟨s, hperm, hstale⟩ := troubled.stale .processing before config.batchSize u
  have hkept := troubled.kept (.store (.findStale .processing before config.batchSize)) u
    fun c hc => by cases hc; rfl
  have hbatch := MemoryStore.isBatch_findStale hperm before config.batchSize
  unfold recoverStuck
  rw [ends_bind, ends_ofOutcome]
  rw [hbefore]
  dsimp only [Outcome.ofInRange]
  rw [ends_bind, ends_store]
  rw [hstale]
  generalize s.findStale .processing before config.batchSize = stale at hbatch ⊢
  generalize (answer (.store (.findStale .processing before config.batchSize)) u).2 = u₁
    at hkept ⊢
  have hps : ∀ p ∈ stale, (view u₁).find? p.id = some p ∧ p.Budgeted ∧
      ∀ u, policy.Schedules p.maxRetries (answer .now u).1 := by
    intro p hp
    obtain ⟨hp, htest⟩ := hbatch.mem p hp
    exact ⟨hkept ▸ MemoryStore.find?_of_mem hp, hrows p hp, hrange p hp htest⟩
  refine (troubled.ends_recoverEach hbatch.ids_nodup hps _).imp ?_
  rintro _ u' _ ⟨xs, results, rfl, rfl, hrecovered⟩
  exact ⟨stale, xs, results, rfl, List.append_assoc .., hbatch, hkept ▸ hrecovered⟩

theorem Troubled.ends_requeueDue (troubled : Troubled answer view) (now : Instant)
    (limit : UInt32) (report : SweepReport) (past : List (Exchange interface)) :
    (store (.findDue .retryScheduled now limit) >>= fun due =>
      requeueEach now due report).Ends answer (fun o u' past' => ∃ due xs swaps,
        o = .ok (swaps.foldl SweepReport.book report) ∧
          past' = past ++ ⟨.store (.findDue .retryScheduled now limit), .ok due⟩ :: xs ∧
          Payout.IsBatch Payout.nextRetryAt (Payout.isDue now) limit (view u).rows due ∧
          Each (Resumed now) due (view u) xs swaps (view u')) u past := by
  obtain ⟨s, hperm, hdue⟩ := troubled.due .retryScheduled now limit u
  have hkept := troubled.kept (.store (.findDue .retryScheduled now limit)) u
    fun c hc => by cases hc; rfl
  have hbatch := MemoryStore.isBatch_findDue hperm now limit
  rw [ends_bind, ends_store]
  rw [hdue]
  generalize s.findDue .retryScheduled now limit = due at hbatch ⊢
  generalize (answer (.store (.findDue .retryScheduled now limit)) u).2 = u₁ at hkept ⊢
  have hstatus : ∀ q ∈ due, q.status = .retryScheduled := by
    intro q hq
    have htest := (hbatch.mem q hq).2
    rw [Payout.isDue, Bool.and_eq_true, decide_eq_true_eq] at htest
    exact htest.1
  refine (troubled.ends_requeueEach hstatus report _).imp ?_
  rintro _ u' _ ⟨xs, swaps, rfl, rfl, hrequeued⟩
  exact ⟨due, xs, swaps, rfl, List.append_assoc .., hbatch, hkept ▸ hrequeued⟩

/-- What a sweep came upon: its time, its batches, and what became of each of their records. -/
structure SweepCourse where
  now : Instant
  before : Instant
  stale : List Payout
  recoveries : List (Outcome (Option Status))
  /-- The store behind the recoveries, which the due records are chosen from. -/
  between : MemoryStore
  due : List Payout
  swaps : List (Except Error Bool)

/-- A sweep that took this course from a store to another one: its requests in their order, its
report, and what is left in the store. -/
structure SweepCourse.Describes (c : SweepCourse) (policy : RetryPolicy) (config : SchedulerConfig)
    (s : MemoryStore) (o : Outcome SweepReport) (s' : MemoryStore)
    (past : List (Exchange interface)) : Prop where
  timed : c.now.sub? config.stuckAfter = some c.before
  stale : Payout.IsBatch (fun p => some p.updatedAt) (Payout.isStale c.before) config.batchSize
    s.rows c.stale
  due : Payout.IsBatch Payout.nextRetryAt (Payout.isDue c.now) config.batchSize c.between.rows c.due
  visits : ∃ xs ys, past = ⟨.now, c.now⟩ ::
      ⟨.store (.findStale .processing c.before config.batchSize), .ok c.stale⟩ :: xs ++
      ⟨.store (.findDue .retryScheduled c.now config.batchSize), .ok c.due⟩ :: ys ∧
    Each (Recovered policy) c.stale s xs c.recoveries c.between ∧
    Each (Resumed c.now) c.due c.between ys c.swaps s'
  report : o = .ok
    { recovered := c.recoveries.countP isSettled
      dispatched := c.swaps.count (.ok true)
      skipped := c.swaps.count (.ok false)
      errors := c.swaps.countP (·.toOption.isNone) }
  total : c.swaps.count (.ok true) + c.swaps.count (.ok false) +
    c.swaps.countP (·.toOption.isNone) = c.due.length
  dispatched : dispatched past = ((c.due.zip c.swaps).filter (·.2 = .ok true)).map (·.1.id)
  once : (Engine.dispatched past).Nodup
  stored : ∀ q ∈ c.due, q.id ∈ Engine.dispatched past →
    s'.find? q.id = some (requeued c.now q)
  others : ∀ id, id ∉ c.stale.map Payout.id → id ∉ c.due.map Payout.id →
    s'.find? id = s.find? id

/-- A sweep over any store that is reached, whatever the other requests are answered. -/
theorem sweep_course {distinct : Bool} {opens : Operation → Bool → Bool}
    {moves : List (machine policy distinct opens).Move} {config : SchedulerConfig}
    {before : Instant} (troubled : Troubled answer view)
    (hstore : view u = ((machine policy distinct opens).run moves).state.store)
    (hbefore : (answer .now u).1.sub? config.stuckAfter = some before)
    (hrange : ∀ p ∈ (view u).rows, p.isStale before = true →
      ∀ u', policy.Schedules p.maxRetries (answer .now u').1) :
    (sweep policy config).Ends answer (fun o u' past => ∃ course : SweepCourse,
      course.Describes policy config (view u) o (view u') past) u [] := by
  have hkept : view (answer .now u).2 = view u := troubled.kept .now u (by simp)
  have hrows : ∀ p ∈ (view u).rows, p.Budgeted := by
    rw [hstore]
    exact fun p => budgeted_of_mem_run
  unfold sweep
  rw [ends_bind, ends_now_of_nonneg (troubled.clock u)]
  dsimp only
  rw [ends_bind]
  rw [← hkept] at hrows hrange
  refine (troubled.ends_recoverStuck hbefore hrows hrange _).imp ?_
  rintro _ u₁ _ ⟨stale, xs, recoveries, rfl, rfl, hstale, hrecovered⟩
  refine (troubled.ends_requeueDue _ config.batchSize _ _).imp ?_
  rintro _ u' _ ⟨due, ys, swaps, rfl, rfl, hdue, hrequeued⟩
  rw [hkept] at hstale hrecovered
  have hdispatched : dispatched ([] ++ [⟨.now, (answer .now u).1⟩] ++
      ⟨.store (.findStale .processing before config.batchSize), .ok stale⟩ :: xs ++
      ⟨.store (.findDue .retryScheduled (answer .now u).1 config.batchSize), .ok due⟩ :: ys) =
        dispatched ys := by
    rw [dispatched_append, List.append_cons, dispatched_append,
      hrecovered.dispatched_recovered]
    rfl
  refine ⟨⟨(answer .now u).1, before, stale, recoveries, view u₁, due, swaps⟩, ?_⟩
  refine {
    timed := hbefore
    stale := hstale
    due := hdue
    visits := ⟨xs, ys, rfl, hrecovered, hrequeued⟩
    report := by simp [SweepReport.foldl_book, SweepReport.empty]
    total := (length_swaps swaps).trans hrequeued.length
    dispatched := ?_
    once := ?_
    stored := ?_
    others := ?_ }
  · rw [hdispatched]
    exact hrequeued.dispatched_resumed
  · rw [hdispatched]
    exact hrequeued.nodup_dispatched hdue.ids_nodup
  · rw [hdispatched]
    exact hrequeued.stored_resumed hdue.ids_nodup
  · intro id hidStale hidDue
    rw [hrequeued.find?_of_not_mem (fun _ _ _ _ _ h _ => h.others) hidDue,
      hrecovered.find?_of_not_mem (fun _ _ _ _ _ h => h.others) hidStale]

/-- Surroundings in which another sweep is faster with each record that is due. -/
def sampleRival : Surroundings interface MemoryStore
  | .store (.saveIf p .retryScheduled), s => (.ok false, s.overwrite p)
  | r, s => sampleSurroundings (.ok .notFound) r s

theorem troubled_sampleRival : Troubled sampleRival fun s => s where
  stale _ _ _ s := ⟨s, .refl _, rfl⟩
  due _ _ _ s := ⟨s, .refl _, rfl⟩
  got _ _ := .inl rfl
  swapped p expected s := by
    cases expected with
    | retryScheduled => exact .lost p rfl
    | pending | processing | completed | failed => exact .served .plain _ _ rfl
  looked _ _ := nofun
  kept r s hread := by
    cases r with
    | store c =>
        cases c with
        | create _ | save _ | saveIf _ _ => cases hread _ rfl
        | get _ | findBySubmission _ | findDue _ _ _ | findStale _ _ _ | list _ => rfl
    | transfer c => cases c <;> rfl
    | now | freshId | publish _ | dispatch _ | pause _ => rfl
  clock _ := Int.le_refl 0

/-- The lost execution of a payout is booked as failed, and the other sweep starts it anew. -/
theorem sweep_course_sampleStuck :
    let s := ((concurrent samplePolicy).run (sampleClaim none)).state.store
    let config : SchedulerConfig := ⟨300, 10, ⟨-1000⟩⟩
    (sweep samplePolicy config).Ends sampleRival
      (fun o s' past => o = .ok ⟨1, 0, 1, 0⟩ ∧
        ∃ course : SweepCourse, course.Describes samplePolicy config s o s' past) s [] := by
  intro s config
  obtain ⟨before, hbefore⟩ : ∃ before, Instant.epoch.sub? config.stuckAfter = some before :=
    Option.isSome_iff_exists.mp (by decide)
  refine ⟨by decide +kernel, ?_⟩
  exact sweep_course (u := s) troubled_sampleRival rfl hbefore
    fun _ _ _ _ => schedules_samplePolicy _

end Disburse.Engine
