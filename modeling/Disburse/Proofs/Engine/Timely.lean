import Disburse.Proofs.Config.Dates
import Disburse.Proofs.Engine.Budget

/-!
Settings that keep their dates cause no crash. As long as the clock shows a time of the years 1970
to 9999, every failure is booked, and a sweep crashes only where the executor does.
-/

namespace Disburse

theorem RetryPolicy.KeepsDates.schedules {policy : RetryPolicy} {now : Instant}
    (h : policy.KeepsDates) (hnow : now.IsModern) (maxRetries : UInt32) :
    policy.Schedules maxRetries now := by
  intro count _ _
  obtain ⟨delay, hdelay, -, hdue⟩ := h count
  exact ⟨delay, hdelay, hdue now hnow⟩

namespace Engine

open Disburse.Code Disburse.Machine

variable {α β : Type} {E : Exchange interface → Prop} {R : α → Prop} {S : β → Prop} {p : Payout}
  {id : PayoutId} {policy : RetryPolicy} {config : SchedulerConfig}
  {past : List (Exchange interface)}

/-- Records within their budget are shown, and anything may be asked. -/
def sober : Code interface where
  faithful := thrift.faithful
  allows _ _ := True

/-- The clock leaves the years 1970 to 9999. -/
def Untimely : Exchange interface → Prop
  | ⟨.now, t⟩ => ¬ Instant.IsModern t
  | _ => False

/-- What may crash a sweep: the clock, or the executor. -/
def Upsets : Exchange interface → Prop
  | ⟨.now, t⟩ => ¬ Instant.IsModern t
  | ⟨.transfer _, .error .crash⟩ => True
  | _ => False

/-- From here on, a task crashes only behind an exchange that excuses it. -/
def SteadyAt (E : Exchange interface → Prop) (t : Work α) (R : α → Prop)
    (past : List (Exchange interface)) : Prop :=
  sober.Heeds t (fun o past' => (∀ a, o = .ok a → R a) ∧
    (o = .error .crash → ∃ x ∈ past', E x)) past

/-- A task crashes only behind an exchange that excuses it. -/
def Steady (E : Exchange interface → Prop) (t : Work α) (R : α → Prop) : Prop :=
  ∀ past, SteadyAt E t R past

theorem SteadyAt.bind {t : Work α} {f : α → Work β} (ht : SteadyAt E t R past)
    (hf : ∀ a, R a → Steady E (f a) S) : SteadyAt E (t >>= f) S past := by
  refine Heeds.bind ht (fun a past' ha => hf a (ha.1 a rfl) past') fun e past' he => ?_
  exact ⟨nofun, fun h => he.2 (by cases h; rfl)⟩

theorem SteadyAt.ofInRange {a? : Option α} (h : a? = none → ∃ x ∈ past, E x) :
    SteadyAt E (Task.ofOutcome (.ofInRange a?)) (fun _ => True) past := by
  cases a? with
  | none => exact ⟨nofun, fun _ => h rfl⟩
  | some a => exact ⟨fun _ _ => trivial, nofun⟩

namespace Steady

theorem pure {a : α} (h : R a) : Steady E (pure a) R := by
  intro _
  exact ⟨fun _ ha => Except.ok.inj ha ▸ h, nofun⟩

theorem fail {e : Error} : Steady E (Task.fail e) R := by
  intro _
  constructor
  · exact nofun
  · exact nofun

theorem bind {t : Work α} {f : α → Work β} (ht : Steady E t R) (hf : ∀ a, R a → Steady E (f a) S) :
    Steady E (t >>= f) S := by
  intro past
  exact (ht past).bind hf

theorem attempt {t : Work α} (h : Steady E t R) :
    Steady E t.attempt fun result => ∀ a, result = .ok a → R a := by
  intro past
  refine heeds_attempt.mpr ((h past).imp ?_)
  rintro ((e | _) | a) past' ⟨hvalue, hcrash⟩
  · refine ⟨fun result hresult => ?_, nofun⟩
    cases hresult
    exact nofun
  · exact ⟨nofun, fun _ => hcrash rfl⟩
  · refine ⟨fun result hresult b hb => ?_, nofun⟩
    cases hresult
    cases hb
    exact hvalue a rfl

theorem store {c : StoreCall} :
    Steady E (store c) fun value => ∀ p ∈ recordsIn ⟨.store c, .ok value⟩, p.Budgeted := by
  refine fun past => ⟨trivial, fun (a : c.Answer) ha => ?_⟩
  cases a with
  | error e => exact ⟨nofun, nofun⟩
  | ok value => exact ⟨fun value' hvalue => Except.ok.inj hvalue ▸ ha, nofun⟩

theorem now_bind {f : Instant → Work α} (hclock : ∀ t : Instant, ¬ t.IsModern → E ⟨.now, t⟩)
    (hf : ∀ t past, ⟨.now, t⟩ ∈ past → SteadyAt E (f t) R past) : Steady E (now >>= f) R := by
  refine fun past => Heeds.bind (t := Engine.now)
    (R := fun o past' => ∃ t : Instant, o = .ofInRange t.reading? ∧ ⟨.now, t⟩ ∈ past')
    ⟨trivial, fun t _ => ⟨t, rfl, by simp⟩⟩ ?_ ?_
  · rintro _ past' ⟨t, ht, hmem⟩
    have hreading : t.reading? = some _ := Outcome.ofInRange_eq_ok_iff.mp ht.symm
    obtain ⟨-, rfl⟩ := Instant.reading?_eq_some_iff.mp hreading
    exact hf t past' hmem
  · rintro e past' ⟨t, ht, hmem⟩
    obtain ⟨hnone, rfl⟩ := Outcome.ofInRange_eq_error_iff.mp ht.symm
    have hearly : t.seconds < 0 := Instant.reading?_eq_none_iff.mp hnone
    refine ⟨nofun, fun _ => ⟨_, hmem, hclock t fun hmodern => ?_⟩⟩
    exact absurd (Instant.isModern_iff.mp hmodern).1 (by omega)

theorem publish {e : Event} : Steady E (publish e) fun _ => True := by
  intro _
  constructor
  · exact trivial
  · intro _ _
    exact ⟨fun _ _ => trivial, nofun⟩

theorem dispatch : Steady E (dispatch id) fun _ => True := by
  intro _
  constructor
  · exact trivial
  · intro _ _
    exact ⟨fun _ _ => trivial, nofun⟩

theorem pause {n : Nat} : Steady E (pause n) fun _ => True := by
  intro _
  constructor
  · exact trivial
  · intro _ _
    exact ⟨fun _ _ => trivial, nofun⟩

theorem lookup {hash : String} (h : E ⟨.transfer (.lookup hash), .error .crash⟩) :
    Steady E (transfer (.lookup hash)) fun _ => True := by
  refine fun past => ⟨trivial, fun o _ => ⟨fun _ _ => trivial, fun hcrash => ?_⟩⟩
  exact ⟨_, List.mem_append_right past (List.mem_singleton_self _), hcrash ▸ h⟩

theorem load : Steady E (load id) Payout.Budgeted := by
  refine store.bind ?_
  rintro (_ | p) hp
  · exact fail
  · exact pure (hp p (by simp [recordsIn]))

theorem persist {act : Nat → Work α} (hact : ∀ n, Steady E (act n) R) (tries n : Nat) :
    Steady E (persist act n tries) R := by
  induction tries generalizing n with
  | zero => exact hact n
  | succ tries ih =>
      refine (hact n).attempt.bind ?_
      rintro (e | a) ha
      · exact pause.bind fun _ _ => ih (n + 1)
      · exact pure (ha a rfl)

theorem writeCompletion (hclock : ∀ t : Instant, ¬ t.IsModern → E ⟨.now, t⟩)
    {receipt : TransferReceipt} {tries : Nat} :
    Steady E (writeCompletion id receipt p tries) fun _ => True := by
  induction tries generalizing p with
  | zero => exact fail
  | succ tries ih =>
      unfold Engine.writeCompletion
      split
      · exact pure trivial
      · refine now_bind hclock fun t past _ => store.bind ?_ past
        rintro (_ | _) -
        · exact load.bind fun _ _ => ih
        · exact pure trivial

theorem complete (hclock : ∀ t : Instant, ¬ t.IsModern → E ⟨.now, t⟩) {receipt : TransferReceipt} :
    Steady E (complete p receipt) fun _ => True := by
  refine (persist (R := fun _ => True) (fun failures => ?_) _ 0).bind ?_
  · dsimp only
    split
    · exact (pure (R := fun _ => True) trivial).bind fun _ _ => writeCompletion hclock
    · exact load.bind fun _ _ => writeCompletion hclock
  · rintro (_ | done) -
    · exact pure trivial
    · exact publish.bind fun _ _ => pure trivial

theorem requeueEach {t : Instant} {ps : List Payout} {report : SweepReport} :
    Steady E (requeueEach t ps report) fun _ => True := by
  induction ps generalizing report with
  | nil => exact pure trivial
  | cons p ps ih =>
      refine bind (R := fun _ => True) ?_ fun _ _ => ih
      unfold Engine.requeueOne
      split
      · exact pure trivial
      · refine store.attempt.bind ?_
        rintro (e | _ | _) -
        · exact pure trivial
        · exact pure trivial
        · exact dispatch.bind fun _ _ => pure trivial

section Clock

variable (hclock : ∀ t : Instant, ¬ t.IsModern → E ⟨.now, t⟩) (hpolicy : policy.KeepsDates)

include hclock hpolicy

theorem bookFailure {reason : String} (h : p.Budgeted) (hstatus : p.status = .processing) :
    Steady E (bookFailure policy p reason) fun _ => True := by
  refine now_bind hclock fun t past hmem =>
    (SteadyAt.ofInRange fun hnone => ?_).bind fun failed _ => ?_
  · refine ⟨_, hmem, hclock t fun hmodern => ?_⟩
    obtain ⟨failed, hfailed⟩ : ∃ failed, p.recordFailure? reason policy t = some failed :=
      h.exists_recordFailure? hstatus (hpolicy.schedules hmodern p.maxRetries)
    cases hfailed.symm.trans hnone
  · refine store.bind ?_
    rintro (_ | _) -
    · exact pure trivial
    · exact publish.bind fun _ _ => pure trivial

theorem recordFailure {reason : String} :
    Steady E (recordFailure policy id reason) fun _ => True := by
  refine load.bind fun p hp => ?_
  split
  · exact bookFailure hclock hpolicy hp ‹_›
  · exact pure trivial

theorem supervise : Steady E (supervise policy id) fun _ => True := by
  intro past
  unfold SteadyAt
  rw [heeds_supervise_iff]
  refine (obeys_of_allows fun _ _ => trivial).imp ?_
  rintro ((e | _) | _) past' -
  · exact ⟨fun _ _ => trivial, nofun⟩
  · refine (recordFailure hclock hpolicy past').imp ?_
    rintro ((e | _) | _) past'' ⟨-, hcrash⟩
    · exact ⟨fun _ _ => trivial, nofun⟩
    · exact ⟨nofun, fun _ => hcrash rfl⟩
    · exact ⟨fun _ _ => trivial, nofun⟩
  · exact ⟨fun _ _ => trivial, nofun⟩

variable (hexecutor : ∀ hash, E ⟨.transfer (.lookup hash), .error .crash⟩)

include hexecutor

theorem recover : Steady E (recover policy id) fun _ => True := by
  refine load.bind fun p hp => ?_
  split
  · exact pure trivial
  rename_i hstatus
  rw [not_not] at hstatus
  split
  · exact bookFailure hclock hpolicy hp hstatus
  refine (lookup (hexecutor _)).bind ?_
  rintro (ledger | result | _) -
  · exact (complete hclock).bind fun _ _ => pure trivial
  · exact bookFailure hclock hpolicy hp hstatus
  · exact bookFailure hclock hpolicy hp hstatus

theorem recoverEach {ps : List Payout} : Steady E (recoverEach policy ps) fun _ => True := by
  induction ps with
  | nil => exact pure trivial
  | cons p ps ih =>
      refine (recover hclock hpolicy hexecutor).attempt.bind fun settled _ => ih.bind fun _ _ => ?_
      split
      all_goals exact pure trivial

theorem sweep (hconfig : config.KeepsDates) : Steady E (sweep policy config) fun _ => True := by
  refine now_bind hclock fun t past hmem => SteadyAt.bind (R := fun _ => True) ?_ fun _ _ =>
    store.bind fun _ _ => requeueEach
  refine (SteadyAt.ofInRange fun hnone => ?_).bind fun _ _ => store.bind fun _ _ =>
    recoverEach hclock hpolicy hexecutor
  refine ⟨_, hmem, hclock t fun hmodern => ?_⟩
  obtain ⟨before, hbefore⟩ := hconfig t hmodern
  cases hbefore.symm.trans hnone

theorem patrol (hconfig : config.KeepsDates) (turns : Nat) :
    Steady E (patrol policy config turns) fun _ => True := by
  induction turns with
  | zero => exact pure trivial
  | succ turns ih =>
      refine bind (R := fun _ => True) ?_ fun _ _ => ih
      exact (sweep hclock hpolicy hexecutor hconfig).attempt.bind fun _ _ => pause

end Clock

end Steady

/-- What a crash of an operation goes back to. -/
def Excused (op : Operation) (o : Outcome op.Value) (past : List (Exchange interface)) : Prop :=
  o = .error .crash →
    match op with
    | .sweep config => config.KeepsDates → ∃ x ∈ past, Upsets x
    | .dispatch _ => ∃ x ∈ past, Untimely x
    | _ => True

theorem excused_of_work (hpolicy : policy.KeepsDates) (op : Operation) :
    thrift.Obeys (op.work policy).outcome (Excused op) [] := by
  have hobeys : thrift.Obeys (op.work policy).outcome (fun _ _ => True) [] :=
    (Thrifty.work policy op []).imp fun _ _ _ => trivial
  cases op with
  | sweep config =>
      by_cases hconfig : config.KeepsDates
      · have hsteady : Steady Upsets (sweep policy config) fun _ => True :=
          Steady.sweep (fun _ h => h) hpolicy (fun _ => trivial) hconfig
        exact (hobeys.and (hsteady []) fun _ h => h).imp fun _ _ h ho _ => h.2.2 ho
      · exact hobeys.imp fun _ _ _ _ h => absurd h hconfig
  | dispatch id =>
      have hsteady : Steady Untimely (supervise policy id) fun _ => True :=
        Steady.supervise (fun _ h => h) hpolicy
      exact (hobeys.and (hsteady []) fun _ h => h).imp fun _ _ h ho => h.2.2 ho
  | create _ | claim _ _ | retry _ | execute _ | recover _ | recordFailure _ _ =>
      exact hobeys.imp fun _ _ _ _ => trivial

theorem excused_of_mem_run (hpolicy : policy.KeepsDates) {moves : List (concurrent policy).Move}
    {op : Operation}
    (ht : ⟨op, past, .done (.error .crash)⟩ ∈ ((concurrent policy).run moves).threads) :
    Excused op (.error .crash) past :=
  ((budgeted_and_abides_run (excused_of_work hpolicy) moves).2 _ ht).rest

/-- Accepted settings keep their dates if and only if the delays lead forward and neither these nor
the threshold exceed what is left of the range. Then every failure can be booked, and a scheduler
crashes only with the clock or with the executor. -/
theorem dates_kept_iff {c : Config} (h : c.validate = .ok ()) :
    (c.KeepsDates ↔ 0 ≤ c.retryBaseSecs.toInt ∧ c.retryBaseSecs.toInt ≤ 7588257 ∧
      c.stuckAfterSecs.toInt ≤ 8334601228800) ∧
    (c.KeepsDates → ∀ policy config, c.retryPolicy? = some policy → c.scheduler? = some config →
      (∀ (p : Payout) (reason : String) (now : Instant), p.Budgeted → p.status = .processing →
        now.IsModern → ∃ failed, p.recordFailure? reason policy now = some failed) ∧
      (∀ (turns : Nat) (xs : List (Exchange interface)),
        (patrol policy config turns).outcome.Reaches xs (.done (.error .crash)) →
        (∀ x ∈ xs, ∀ p ∈ recordsIn x, p.Budgeted) → ∃ x ∈ xs, Upsets x) ∧
      ∀ (moves : List (concurrent policy).Move) (past : List (Exchange interface)),
        (⟨.sweep config, past, .done (.error .crash)⟩ ∈
          ((concurrent policy).run moves).threads → ∃ x ∈ past, Upsets x) ∧
        ∀ id, ⟨.dispatch id, past, .done (.error .crash)⟩ ∈
          ((concurrent policy).run moves).threads → ∃ x ∈ past, Untimely x) := by
  refine ⟨Config.keepsDates_iff (Config.stuckAfter_pos h), ?_⟩
  rintro ⟨⟨_, hretry, hpolicy⟩, _, hscheduler, hconfig⟩ policy config hretry' hscheduler'
  obtain rfl := Option.some.inj (hretry.symm.trans hretry')
  obtain rfl := Option.some.inj (hscheduler.symm.trans hscheduler')
  refine ⟨fun p reason now hbudget hstatus hnow => ?_, fun turns xs hreaches hxs => ?_,
    fun moves past => ⟨fun ht => ?_, fun id ht => ?_⟩⟩
  · exact hbudget.exists_recordFailure? hstatus (hpolicy.schedules hnow p.maxRetries)
  · have hsteady : Steady Upsets (patrol _ _ turns) fun _ => True :=
      Steady.patrol (fun _ h => h) hpolicy (fun _ => trivial) hconfig turns
    exact ((hsteady []).of_reaches hreaches hxs).2 rfl
  · exact excused_of_mem_run hpolicy ht rfl hconfig
  · exact excused_of_mem_run hpolicy ht rfl

/-- The defaults, but for the delay before a retry and the threshold for lost executions. -/
def sampleSettings (retryBaseSecs stuckAfterSecs : Int64) : Config where
  rpcUrl := "http://rpc.test"
  horizonUrl := "http://accounts.test"
  networkPassphrase := "Test Network"
  signerSecret := ""
  sourceAccount := "GPAY"
  databaseUrl := "sqlite::memory:"
  apiPort := 3002
  baseFee := 100
  txTimeoutSecs := 30
  confirmPollIntervalMs := 2000
  confirmMaxAttempts := 30
  simulateBeforeSubmit := false
  httpTimeoutSecs := 30
  retryBaseSecs := retryBaseSecs
  defaultMaxRetries := 3
  schedulerIntervalSecs := 300
  schedulerBatchSize := 10
  stuckAfterSecs := stuckAfterSecs

theorem budgeted_sampleClaimed : (sampleClaimed none).Budgeted := by
  constructor <;> decide

theorem dates_kept_by_sampleSettings :
    (sampleSettings 300 1800).validate = .ok () ∧ (sampleSettings 300 1800).KeepsDates ∧
      ∃ failed,
        (sampleClaimed none).recordFailure? "busy" ⟨.seconds 300, 3⟩ .epoch = some failed := by
  have hvalidate : (sampleSettings 300 1800).validate = .ok () := by rfl
  obtain ⟨hiff, hkeeps⟩ := dates_kept_iff hvalidate
  have hdates : (sampleSettings 300 1800).KeepsDates := hiff.mpr (by decide)
  obtain ⟨hbooks, -⟩ := hkeeps hdates ⟨.seconds 300, 3⟩ ⟨300, 10, .seconds 1800⟩ rfl rfl
  exact ⟨hvalidate, hdates,
    hbooks _ "busy" .epoch budgeted_sampleClaimed rfl (Instant.isModern_iff.mpr (by decide))⟩

/-- A policy whose delays leave the calendar. -/
def sampleEndless : RetryPolicy :=
  ⟨.seconds 10000000000000, 3⟩

/-- A submission that fails: its failure crashes the execution, and the supervisor behind it. -/
def sampleUnbooked : List (Exchange interface) :=
  [⟨.store (.get sampleId), .ok (some (sampleClaimed none))⟩,
    ⟨.transfer (.submit (requestOf (sampleClaimed none))), .error (.error (.rpc 0 "busy"))⟩,
    ⟨.now, .epoch⟩, ⟨.store (.get sampleId), .ok (some (sampleClaimed none))⟩, ⟨.now, .epoch⟩]

/-- Ten million million seconds are accepted, and neither a sweep nor a supervisor survives them. -/
theorem dates_lost_by_sampleSettings :
    (sampleSettings 10000000000000 10000000000000).validate = .ok () ∧
      (sampleSettings 10000000000000 10000000000000).retryPolicy? = some sampleEndless ∧
      (∃ config, (sampleSettings 10000000000000 10000000000000).scheduler? = some config ∧
        (sweep sampleEndless config).outcome.Reaches [⟨.now, .epoch⟩] (.done (.error .crash))) ∧
      (sampleClaimed none).recordFailure? "busy" sampleEndless .epoch = none ∧
      (supervise sampleEndless sampleId).outcome.Reaches sampleUnbooked (.done (.error .crash)) ∧
      Instant.epoch.IsModern := by
  refine ⟨by rfl, by rfl, ⟨_, by rfl, .ask (.refl _)⟩, by decide +kernel, ?_,
    Instant.isModern_iff.mpr (by decide)⟩
  exact .ask (.ask (.ask (.ask (.ask (.refl _)))))

end Engine

end Disburse
