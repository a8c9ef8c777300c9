import Disburse.Proofs.Concurrency.Alike
import Disburse.Proofs.Engine.Recovery
import Disburse.Proofs.Engine.Scope
import Disburse.Proofs.Store.Unreadable

/-!
Sweeps over a table with rows that denote no payout. As long as no batch comes upon one of them,
they are nothing to a sweep; but one that is in a batch ends the sweep.
-/

namespace Disburse.Engine

open Disburse.Code Disburse.PayoutTable

variable {ω : Type} {rest : Surroundings interface ω} {policy : RetryPolicy}
  {config : SchedulerConfig} {now : Instant} {ids : List String} {t t' : PayoutTable} {w : ω}
  {p : Payout} {id : PayoutId} {past : List (Exchange interface)}

/-- The batch of a sweep's first part. -/
def isSalvaging (config : SchedulerConfig) (now : Instant) : Request → Prop
  | .store (.findStale status before _) =>
    status = .processing ∧ now.sub? config.stuckAfter = some before
  | _ => False

/-- The batches of a sweep at a time, and the executions that it starts. -/
def isSweeping (config : SchedulerConfig) (now : Instant) : Request → Prop
  | .store (.findDue status time _) => status = .retryScheduled ∧ time = now
  | .dispatch _ => True
  | r => isSalvaging config now r

theorem isSweeping_of_isSalvaging {r : Request} (h : isSalvaging config now r) :
    isSweeping config now r := by
  unfold isSweeping
  split
  · exact h.elim
  · exact h.elim
  · exact h

theorem exists_of_isSalvaging {r : Request} (h : isSalvaging config now r) :
    ∃ before limit, now.sub? config.stuckAfter = some before ∧
      r = .store (.findStale .processing before limit) := by
  unfold isSalvaging at h
  split at h
  · obtain ⟨rfl, hbefore⟩ := h
    exact ⟨_, _, hbefore, rfl⟩
  · exact h.elim

/-- A sweep behind the look at its clock. -/
def sweepAt (policy : RetryPolicy) (config : SchedulerConfig) (now : Instant) :
    Work SweepReport := do
  let recovered ← recoverStuck policy config now
  let due ← store (.findDue .retryScheduled now config.batchSize)
  requeueEach now due { SweepReport.empty with recovered }

theorem ends_sweep {Q : Outcome SweepReport → PayoutTable × ω → List (Exchange interface) → Prop}
    (h : 0 ≤ (rest .now w).1.seconds) :
    (sweep policy config).Ends (beside PayoutTable.answer rest) Q (t, w) past ↔
      (sweepAt policy config (rest .now w).1).Ends (beside PayoutTable.answer rest) Q
        (t, (rest .now w).2) (past ++ [⟨.now, (rest .now w).1⟩]) := by
  have hnow : 0 ≤ (beside PayoutTable.answer rest .now (t, w)).1.seconds := h
  unfold sweep
  rw [Task.ends_bind, ends_now_of_nonneg hnow]
  rfl

theorem ends_sweep_of_early
    {Q : Outcome SweepReport → PayoutTable × ω → List (Exchange interface) → Prop}
    (h : (rest .now w).1.seconds < 0) :
    (sweep policy config).Ends (beside PayoutTable.answer rest) Q (t, w) past ↔
      Q (.error .crash) (t, (rest .now w).2) (past ++ [⟨.now, (rest .now w).1⟩]) := by
  have hnow : (beside PayoutTable.answer rest .now (t, w)).1.seconds < 0 := h
  unfold sweep
  rw [Task.ends_bind, ends_now, Instant.reading?_of_neg hnow]
  rfl

theorem scope.recoverStuck {known : PayoutId → Prop} {extra : Request → Prop}
    (hextra : ∀ r, isSalvaging config now r → extra r) :
    (scope known extra).Minds (recoverStuck policy config now) fun _ => True := by
  unfold Engine.recoverStuck
  cases hbefore : now.sub? config.stuckAfter with
  | none =>
      exact Minds.bind (R := fun _ => False) (.ofOutcome fun _ h => by cases h) fun _ h => h.elim
  | some before =>
      have hallows : ∀ past, (scope known extra).allows past
          (.store (.findStale .processing before config.batchSize)) :=
        fun _ => hextra _ ⟨rfl, hbefore⟩
      refine Minds.bind (R := (before = ·)) (.ofOutcome fun _ h => Except.ok.inj h) ?_
      rintro _ rfl
      exact (shown hallows).bind fun _ hstale => recoverEach hstale

theorem scope.sweepAt {known : PayoutId → Prop} :
    (scope known (isSweeping config now)).Minds (sweepAt policy config now) fun _ => True := by
  have hallows : ∀ past, (scope known (isSweeping config now)).allows past
      (.store (.findDue .retryScheduled now config.batchSize)) :=
    fun _ => ⟨rfl, rfl⟩
  refine (scope.recoverStuck fun _ => isSweeping_of_isSalvaging).bind fun _ _ => ?_
  exact (shown hallows).bind fun _ hdue => requeueEach hdue fun _ => trivial

/-- A row that the batch which is asked for may be read from. -/
def chooses : Request → PayoutRow Quantity → Bool
  | .store (.findStale status before _), row =>
    isChosen status (fun r => some r.updatedAt) (fun x => !(storedTime before).le x) row
  | .store (.findDue status now _), row =>
    isChosen status PayoutRow.nextRetryAt (fun x => x.le (storedTime now)) row
  | _, _ => false

/-- Rows of some identifiers that requests of a kind leave aside: no batch may be read from them,
and no other row has an identifier that reads as one of theirs. -/
structure Aside (extra : Request → Prop) (ids : List String) (t : PayoutTable) : Prop where
  idle : ∀ r, extra r → ∀ row ∈ t.rows, row.id ∈ ids → chooses r row = false
  own : ∀ text ∈ t.rows.map PayoutRow.id, text ∉ ids →
    ∀ id, PayoutId.parse text = .ok id → id.toText ∉ ids

namespace Aside

variable {extra : Request → Prop}

theorem update {expected : Option Status} (h : Aside extra ids t) (hid : p.id.toText ∉ ids) :
    Aside extra ids (t.update p expected) where
  idle r hr row hrow hmem :=
    h.idle r hr row ((mem_update_iff fun hp => hid (hp ▸ hmem)).mp hrow) hmem
  own := by
    rw [map_id_update]
    exact h.own

theorem toText_of_holds {row : PayoutRow Quantity} (h : Aside extra ids t) (hrow : row ∈ t.rows)
    (hmem : row.id ∉ ids) (hholds : Holds row p) : p.id.toText ∉ ids := by
  obtain ⟨r, rfl, hr⟩ := hholds
  exact h.own _ (List.mem_map_of_mem hrow) hmem _ hr.id

theorem toText_of_get {a : Except Error (Option Payout)} (hmem : id.toText ∉ ids)
    (hget : t.get id = a) : ∀ p ∈ recordsIn ⟨.store (.get id), a⟩, p.id.toText ∉ ids := by
  intro p hp
  cases a with
  | error e => cases hp
  | ok found =>
      obtain rfl := Option.mem_toList.mp hp
      obtain ⟨row, -, hid, r, rfl, hr⟩ := get_eq_some_iff.mp hget
      have hparse : PayoutId.parse id.toText = .ok p.id := hid ▸ hr.id
      rw [PayoutRow.parse_toText_id] at hparse
      exact Except.ok.inj hparse ▸ hmem

theorem toText_of_select {status : Status} {column : PayoutRow Quantity → Option Quantity}
    {test : Quantity → Bool} {limit : UInt32} {ps : List Payout} (h : Aside extra ids t)
    (hidle : ∀ row ∈ t.rows, row.id ∈ ids → isChosen status column test row = false)
    (hselect : t.select status column test limit = .ok ps) : ∀ p ∈ ps, p.id.toText ∉ ids := by
  intro p hp
  obtain ⟨row, hbatch, hholds⟩ := exists_row_of_decode hselect hp
  obtain ⟨hrow, hchosen⟩ := isChosen_of_mem_batchRows hbatch
  refine h.toText_of_holds hrow (fun hmem => ?_) hholds
  rw [hidle row hrow hmem] at hchosen
  cases hchosen

theorem toText_of_findStale {status : Status} {before : Instant} {limit : UInt32}
    {a : Except Error (List Payout)} (h : Aside extra ids t)
    (hextra : extra (.store (.findStale status before limit)))
    (hfind : t.findStale status before limit = a) :
    ∀ p ∈ recordsIn ⟨.store (.findStale status before limit), a⟩, p.id.toText ∉ ids := by
  cases a with
  | error e => exact fun _ hp => absurd hp List.not_mem_nil
  | ok ps => exact h.toText_of_select (h.idle _ hextra) hfind

theorem toText_of_findDue {status : Status} {limit : UInt32} {a : Except Error (List Payout)}
    (h : Aside extra ids t) (hextra : extra (.store (.findDue status now limit)))
    (hfind : t.findDue status now limit = a) :
    ∀ p ∈ recordsIn ⟨.store (.findDue status now limit), a⟩, p.id.toText ∉ ids := by
  cases a with
  | error e => exact fun _ hp => absurd hp List.not_mem_nil
  | ok ps => exact h.toText_of_select (h.idle _ hextra) hfind

end Aside

/-- Two states of a table and its surroundings that are the same but for the rows that are left
aside, which are those of `t`. -/
structure Veiled (extra : Request → Prop) (ids : List String) (t : PayoutTable)
    (u u' : PayoutTable × ω) : Prop where
  aside : Aside extra ids u.1
  stable : u.1.rows.map PayoutRow.id = t.rows.map PayoutRow.id
  kept : ∀ row, row.id ∈ ids → (row ∈ u.1.rows ↔ row ∈ t.rows)
  table : u'.1 = u.1.without ids
  rest : u'.2 = u.2

/-- The parts of a sweep cannot tell whether rows that they leave aside are there. -/
theorem alikeUnder_scope (rest : Surroundings interface ω) {extra : Request → Prop}
    (hextra : ∀ r, extra r → isSweeping config now r) :
    (scope (fun id => id.toText ∉ ids) extra).AlikeUnder (beside PayoutTable.answer rest)
      (beside PayoutTable.answer rest) (Veiled extra ids t) := by
  rintro past r ⟨t₁, _⟩ ⟨t₂, w⟩ ⟨haside, hids, hkept, htable, hrest⟩ hallows
  dsimp only at haside hids hkept htable hrest
  subst htable hrest
  have hquiet : ∀ w' : ω, Veiled extra ids t (t₁, w') (t₁.without ids, w') :=
    fun _ => ⟨haside, hids, hkept, rfl, rfl⟩
  cases r with
  | store c =>
      cases c with
      | get id => exact ⟨(get_without hallows).symm, Aside.toText_of_get hallows rfl, hquiet w⟩
      | saveIf p expected =>
          have hswap := saveIf_without (t := t₁) expected hallows
          refine ⟨(congrArg Prod.fst hswap).symm, fun _ hp => absurd hp List.not_mem_nil,
            haside.update hallows, (map_id_update ..).trans hids, fun row hmem => ?_,
            congrArg Prod.snd hswap, rfl⟩
          exact (mem_update_iff fun hp => hallows (hp ▸ hmem)).trans (hkept row hmem)
      | findDue status time limit =>
          exact ⟨(select_without (haside.idle _ hallows)).symm,
            haside.toText_of_findDue hallows rfl, hquiet w⟩
      | findStale status before limit =>
          exact ⟨(select_without (haside.idle _ hallows)).symm,
            haside.toText_of_findStale hallows rfl, hquiet w⟩
      | create _ | findBySubmission _ | save _ | list _ => exact (hextra _ hallows).elim
  | transfer c =>
      cases c with
      | lookup hash => exact ⟨rfl, fun _ hp => absurd hp List.not_mem_nil, hquiet _⟩
      | submit _ | awaitConfirmation _ => exact (hextra _ hallows).elim
  | now | publish _ | dispatch _ | pause _ =>
      exact ⟨rfl, fun _ hp => absurd hp List.not_mem_nil, hquiet _⟩
  | freshId => exact (hextra _ hallows).elim

/-- A sweep over a table goes as it does over the table without the rows that it leaves aside, and
does not touch these. -/
theorem run_sweep_of_aside (policy : RetryPolicy)
    (h : Aside (isSweeping config (rest .now w).1) ids t) :
    let answer := beside PayoutTable.answer rest
    let program := (sweep policy config).outcome
    (program.run answer (t, w)).1 = (program.run answer (t.without ids, w)).1 ∧
      program.trace answer (t, w) = program.trace answer (t.without ids, w) ∧
      Veiled (isSweeping config (rest .now w).1) ids t (program.run answer (t, w)).2
        (program.run answer (t.without ids, w)).2 := by
  have hminds : (scope (fun id => id.toText ∉ ids) (isSweeping config (rest .now w).1)).Minds
      (sweepAt policy config (rest .now w).1) fun _ => True := scope.sweepAt
  have hveiled : Veiled (isSweeping config (rest .now w).1) ids t (t, (rest .now w).2)
      (t.without ids, (rest .now w).2) :=
    ⟨h, rfl, fun _ _ => Iff.rfl, rfl, rfl⟩
  by_cases hearly : (rest .now w).1.seconds < 0
  · -- Both sweeps crash on the clock.
    have hcrash : ∀ t, (sweep policy config).Ends (beside PayoutTable.answer rest)
        (fun o u past => o = .error .crash ∧ u = (t, (rest .now w).2) ∧
          past = [⟨.now, (rest .now w).1⟩]) (t, w) [] :=
      fun t => (ends_sweep_of_early hearly).mpr ⟨rfl, rfl, rfl⟩
    obtain ⟨hvalue, hlast, htrace⟩ := hcrash t
    obtain ⟨hvalue', hlast', htrace'⟩ := hcrash (t.without ids)
    rw [List.nil_append] at htrace htrace'
    refine ⟨hvalue.trans hvalue'.symm, htrace.trans htrace'.symm, ?_⟩
    rw [hlast, hlast']
    exact hveiled
  · have hgoes : ∀ t, (sweep policy config).Ends (beside PayoutTable.answer rest)
        (fun o u past =>
          (o, u) = (sweepAt policy config (rest .now w).1).outcome.run
            (beside PayoutTable.answer rest) (t, (rest .now w).2) ∧
          past = ⟨.now, (rest .now w).1⟩ :: (sweepAt policy config (rest .now w).1).outcome.trace
            (beside PayoutTable.answer rest) (t, (rest .now w).2)) (t, w) [] :=
      fun t => (ends_sweep (Int.not_lt.mp hearly)).mpr ⟨rfl, rfl⟩
    obtain ⟨hrun, htrace⟩ := hgoes t
    obtain ⟨hrun', htrace'⟩ := hgoes (t.without ids)
    rw [List.nil_append] at htrace htrace'
    obtain ⟨hsame, hsteps, hlast⟩ :=
      (hminds []).run_alike (alikeUnder_scope rest (t := t) fun _ h => h) hveiled
    intro answer program
    rw [show program.run answer (t, w) = _ from hrun,
      show program.run answer (t.without ids, w) = _ from hrun',
      show program.trace answer (t, w) = _ from htrace,
      show program.trace answer (t.without ids, w) = _ from htrace', hsteps]
    exact ⟨hsame, rfl, hlast⟩

/-- Rows that denote no payout are nothing to a sweep, unless they are in processing for too long
or due, or another row has an identifier that reads as one of theirs. -/
theorem sweep_beside_unreadable (policy : RetryPolicy) (rest : Surroundings interface ω)
    (h : Aside (isSweeping config (rest .now w).1) t.unreadable t) :
    let answer := beside PayoutTable.answer rest
    let program := (sweep policy config).outcome
    let (o, t₁, w₁) := program.run answer (t, w)
    let (o', t₁', w₁') := program.run answer (t.without t.unreadable, w)
    o = o' ∧ program.trace answer (t, w) = program.trace answer (t.without t.unreadable, w) ∧
      w₁ = w₁' ∧ t₁' = t₁.without t.unreadable ∧
      ∀ row, row.id ∈ t.unreadable → (row ∈ t₁.rows ↔ row ∈ t.rows) := by
  obtain ⟨hvalue, htrace, hlast⟩ := run_sweep_of_aside policy h
  exact ⟨hvalue, htrace, hlast.rest.symm, hlast.table, hlast.kept⟩

/-- A payout whose retry is due at once. -/
def sampleWaiting : Payout :=
  { sampleClaimed none with status := .retryScheduled, nextRetryAt := some .epoch }

/-- A row like that of the sample, with an amount that is not a number. -/
def sampleGarbled (status : Status) : PayoutRow Quantity :=
  { stored { sampleWaiting with id := .ofNat 2, submissionRef := none, status } with
    amount := "abc" }

/-- A table with a row that denotes no payout in front of one that waits for its retry. -/
def sampleTable (status : Status) : PayoutTable where
  rows := [sampleGarbled status, stored sampleWaiting]
  ids_nodup := by
    have hids : [(PayoutId.ofNat 2).toText, sampleId.toText].Nodup := by decide
    exact hids
  submissions_nodup := List.nodup_singleton "sub-1"

theorem toText_sampleId_ne : sampleId.toText ≠ (PayoutId.ofNat 2).toText := by
  decide

theorem own_sampleTable (status : Status) :
    ∀ text ∈ (sampleTable status).rows.map PayoutRow.id, text ∉ [(PayoutId.ofNat 2).toText] →
      ∀ id, PayoutId.parse text = .ok id → id.toText ∉ [(PayoutId.ofNat 2).toText] := by
  intro text htext hother id hid
  have htext : text ∈ [(PayoutId.ofNat 2).toText, sampleId.toText] := htext
  rcases List.mem_cons.mp htext with rfl | htext
  · exact absurd (List.mem_singleton_self _) hother
  · rw [List.mem_singleton.mp htext, PayoutRow.parse_toText_id] at hid
    rw [← Except.ok.inj hid]
    exact fun hmem => toText_sampleId_ne (List.mem_singleton.mp hmem)

theorem sweep_beside_sampleGarbled :
    let answer := beside PayoutTable.answer (sampleSurroundings (.ok .notFound))
    let config : SchedulerConfig := ⟨300, 10, ⟨0⟩⟩
    let program := (sweep samplePolicy config).outcome
    let t := sampleTable .pending
    Aside (isSweeping config .epoch) t.unreadable t ∧
      (program.run answer (t, .empty)).1 = .ok ⟨0, 1, 0, 0⟩ ∧
      program.trace answer (t, .empty) = program.trace answer (t.without t.unreadable, .empty) := by
  intro answer config program t
  have hbad : t.unreadable = [(PayoutId.ofNat 2).toText] := by decide +kernel
  have haside : Aside (isSweeping config .epoch) t.unreadable t := by
    rw [hbad]
    refine ⟨fun r hr row hrow hid => ?_, own_sampleTable .pending⟩
    have hrow : row = sampleGarbled .pending := by
      rcases List.mem_cons.mp hrow with rfl | hrow
      · rfl
      · rw [List.mem_singleton.mp hrow] at hid
        exact absurd (List.mem_singleton.mp hid) toText_sampleId_ne
    subst hrow
    unfold isSweeping at hr
    split at hr
    · rw [hr.1]
      rfl
    · rfl
    · obtain ⟨before, limit, -, rfl⟩ := exists_of_isSalvaging hr
      rfl
  refine ⟨haside, by decide +kernel, ?_⟩
  have hsame := sweep_beside_unreadable (w := .empty) samplePolicy
    (sampleSurroundings (.ok .notFound)) haside
  exact hsame.2.1

theorem ends_recoverStuck_of_aside (h : Aside (isSalvaging config now) ids t)
    (past : List (Exchange interface)) :
    (recoverStuck policy config now).Ends (beside PayoutTable.answer rest) (fun _ u' past' =>
      u'.1.rows.map PayoutRow.id = t.rows.map PayoutRow.id ∧
        (∀ row, row.id ∈ ids → (row ∈ u'.1.rows ↔ row ∈ t.rows)) ∧
        dispatched past' = dispatched past) (t, w) past := by
  have halike : (scope (fun id => id.toText ∉ ids) (isSalvaging config now)).AlikeUnder
      (beside PayoutTable.answer rest) (beside PayoutTable.answer rest)
      (Veiled (isSalvaging config now) ids t) :=
    alikeUnder_scope rest fun _ => isSweeping_of_isSalvaging
  have hminds : (scope (fun id => id.toText ∉ ids) (isSalvaging config now)).Minds
      (recoverStuck policy config now) fun _ => True := scope.recoverStuck fun _ h => h
  have hends := (hminds past).ends
    (S := fun u => Veiled (isSalvaging config now) ids t u (u.1.without ids, u.2))
    (fun past r u hu hallows => by
      obtain ⟨-, hfaithful, hnext⟩ := halike past r _ _ hu hallows
      exact ⟨hfaithful, hnext.aside, hnext.stable, hnext.kept, rfl, rfl⟩)
    (s := (t, w)) ⟨h, rfl, fun _ _ => Iff.rfl, rfl, rfl⟩
  refine Program.Ends.imp hends ?_
  rintro o u' _ ⟨-, hlast, xs, rfl, hallowed⟩
  refine ⟨hlast.stable, hlast.kept, ?_⟩
  rw [dispatched_append, scope.dispatched_eq_nil (fun _ h => h) hallowed, List.append_nil]

theorem ends_recoverStuck_of_unreadable {row : PayoutRow Quantity} {r : Request}
    (hsize : t.rows.length ≤ config.batchSize.toNat) (hrow : row ∈ t.rows)
    (hbad : row.id ∈ t.unreadable) (hr : isSalvaging config now r) (hchosen : chooses r row = true)
    (past : List (Exchange interface)) :
    (recoverStuck policy config now).Ends (beside PayoutTable.answer rest)
      (fun o _ past' => (∃ e, o = .error e) ∧ dispatched past' = dispatched past) (t, w) past := by
  obtain ⟨before, _, hbefore, rfl⟩ := exists_of_isSalvaging hr
  have hstale : isStale before row = true := hchosen
  obtain ⟨e, herror⟩ := select_error hrow
    (fun _ => not_holds_of_unreadable hrow hbad) hstale (List.countP_le_length.trans hsize)
  have hanswer : (beside PayoutTable.answer rest
      (.store (.findStale .processing before config.batchSize)) (t, w)).1 = .error e := herror
  unfold recoverStuck
  rw [Task.ends_bind, Task.ends_ofOutcome, hbefore]
  dsimp only [Outcome.ofInRange]
  rw [Task.ends_bind, ends_store, hanswer]
  exact ⟨⟨_, rfl⟩, by simp [dispatched]⟩

theorem ends_requeueDue_of_unreadable {α : Type} {row : PayoutRow Quantity}
    {next : List Payout → Work α} (hsize : t.rows.length ≤ config.batchSize.toNat)
    (hrow : row ∈ t.rows) (hbad : ∀ p, ¬ Holds row p) (hdue : isDue now row = true)
    (past : List (Exchange interface)) :
    Task.Ends (beside PayoutTable.answer rest)
      (store (.findDue .retryScheduled now config.batchSize) >>= next)
      (fun o _ past' => (∃ e, o = .error e) ∧ dispatched past' = dispatched past) (t, w) past := by
  obtain ⟨e, herror⟩ := select_error hrow hbad hdue
    (List.countP_le_length.trans hsize)
  have hanswer : (beside PayoutTable.answer rest
      (.store (.findDue .retryScheduled now config.batchSize)) (t, w)).1 = .error e := herror
  rw [Task.ends_bind, ends_store, hanswer]
  refine ⟨⟨_, rfl⟩, ?_⟩
  rw [dispatched_append]
  exact List.append_nil _

theorem ends_sweepAt_of_unreadable {row : PayoutRow Quantity} {r : Request}
    (hown : ∀ text ∈ t.rows.map PayoutRow.id, text ∉ t.unreadable →
      ∀ id, PayoutId.parse text = .ok id → id.toText ∉ t.unreadable)
    (hsize : t.rows.length ≤ config.batchSize.toNat) (hrow : row ∈ t.rows)
    (hbad : row.id ∈ t.unreadable) (hr : isSweeping config now r) (hchosen : chooses r row = true)
    (past : List (Exchange interface)) :
    (sweepAt policy config now).Ends (beside PayoutTable.answer rest)
      (fun o _ past' => (∃ e, o = .error e) ∧ dispatched past' = dispatched past) (t, w) past := by
  unfold sweepAt
  rw [Task.ends_bind]
  by_cases hfirst : ∃ r row, isSalvaging config now r ∧ row ∈ t.rows ∧ row.id ∈ t.unreadable ∧
      chooses r row = true
  · obtain ⟨r, row, hr, hrow, hbad, hchosen⟩ := hfirst
    refine (ends_recoverStuck_of_unreadable hsize hrow hbad hr hchosen past).imp ?_
    rintro _ u past' ⟨⟨e, rfl⟩, hdispatched⟩
    exact ⟨⟨e, rfl⟩, hdispatched⟩
  -- The first batch leaves such rows aside, so that they are still there for the second one.
  · have haside : Aside (isSalvaging config now) t.unreadable t := by
      refine ⟨fun r hr row hrow hbad => Bool.eq_false_iff.mpr fun hchosen => ?_, hown⟩
      exact hfirst ⟨r, row, hr, hrow, hbad, hchosen⟩
    refine (ends_recoverStuck_of_aside haside past).imp ?_
    rintro (e | recovered) ⟨t₁, w₁⟩ past' ⟨hstable, hkept, hdispatched⟩
    · exact ⟨⟨e, rfl⟩, hdispatched⟩
    have hdue : isDue now row = true := by
      unfold isSweeping at hr
      split at hr
      · obtain ⟨rfl, rfl⟩ := hr
        exact hchosen
      · cases hchosen
      · exact absurd ⟨r, row, hr, hrow, hbad, hchosen⟩ hfirst
    have hlength : t₁.rows.length ≤ config.batchSize.toNat := by
      have hsame := congrArg List.length hstable
      rw [List.length_map, List.length_map] at hsame
      rwa [hsame]
    refine (ends_requeueDue_of_unreadable hlength ((hkept row hbad).mpr hrow)
      (fun _ => not_holds_of_unreadable hrow hbad) hdue past').imp ?_
    rintro o u past'' ⟨herror, hnone⟩
    exact ⟨herror, hnone.trans hdispatched⟩

/-- One row that denotes no payout ends a sweep whose batches it is large enough for. -/
theorem sweep_stopped_by_unreadable {row : PayoutRow Quantity} {r : Request}
    (hown : ∀ text ∈ t.rows.map PayoutRow.id, text ∉ t.unreadable →
      ∀ id, PayoutId.parse text = .ok id → id.toText ∉ t.unreadable)
    (hsize : t.rows.length ≤ config.batchSize.toNat) (hrow : row ∈ t.rows)
    (hbad : row.id ∈ t.unreadable) (hr : isSweeping config (rest .now w).1 r)
    (hchosen : chooses r row = true) :
    (sweep policy config).Ends (beside PayoutTable.answer rest)
      (fun o _ past => (∃ e, o = .error e) ∧ dispatched past = []) (t, w) [] := by
  by_cases hearly : (rest .now w).1.seconds < 0
  · exact (ends_sweep_of_early hearly).mpr ⟨⟨_, rfl⟩, rfl⟩
  · exact (ends_sweep (Int.not_lt.mp hearly)).mpr
      (ends_sweepAt_of_unreadable hown hsize hrow hbad hr hchosen _)

/-- The sample is not dispatched once the garbled row beside it is due as well. -/
theorem sweep_blocked_by_sampleGarbled :
    ¬ ∀ (config : SchedulerConfig) (t : PayoutTable),
      let answer := beside PayoutTable.answer (sampleSurroundings (.ok .notFound))
      let program := (sweep samplePolicy config).outcome
      (∀ before, Instant.epoch.sub? config.stuckAfter = some before →
        t.rows.countP (isStale before) ≤ config.batchSize.toNat) →
      t.rows.countP (isDue .epoch) ≤ config.batchSize.toNat →
      dispatched (program.trace answer (t, .empty)) =
        dispatched (program.trace answer (t.without t.unreadable, .empty)) := by
  intro h
  have hstale : ∀ before, ((sampleTable .retryScheduled).rows.countP (isStale before)) ≤ 10 :=
    fun before => List.countP_le_length.trans (by decide)
  have hsame := h ⟨300, 10, ⟨0⟩⟩ (sampleTable .retryScheduled) (fun before _ => hstale before)
    (List.countP_le_length.trans (by decide))
  have hbad : (sampleTable .retryScheduled).unreadable = [(PayoutId.ofNat 2).toText] := by
    decide +kernel
  have hmem : (sampleGarbled .retryScheduled).id ∈ (sampleTable .retryScheduled).unreadable := by
    rw [hbad]
    exact List.mem_singleton_self _
  have hstopped : (sweep samplePolicy ⟨300, 10, ⟨0⟩⟩).Ends
      (beside PayoutTable.answer (sampleSurroundings (.ok .notFound)))
      (fun o _ past => (∃ e, o = .error e) ∧ dispatched past = [])
      (sampleTable .retryScheduled, .empty) [] :=
    sweep_stopped_by_unreadable (r := .store (.findDue .retryScheduled .epoch 10))
      (hbad ▸ own_sampleTable .retryScheduled) (by decide) List.mem_cons_self hmem ⟨rfl, rfl⟩ rfl
  have hnone := hstopped.2
  rw [List.nil_append, hsame, hbad] at hnone
  revert hnone
  decide +kernel

end Disburse.Engine
