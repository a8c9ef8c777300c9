import Disburse.Config
import Disburse.Proofs.Payout.Schedule
import Disburse.Proofs.Time.Range

/-!
The dates that settings lead to. Retries are dated forward from a failure, and the threshold for
lost executions is dated back from a sweep; checked settings may leave the range of dates on either
side.
-/

namespace Disburse

/-- Every delay leads forward, from the years 1970 to 9999 to an instant that can be written. -/
def RetryPolicy.KeepsDates (policy : RetryPolicy) : Prop :=
  ∀ count, ∃ delay, policy.backoff? count = some delay ∧ 0 ≤ delay.nanoseconds ∧
    ∀ now : Instant, now.IsModern → ∃ due, now.add? delay = some due

/-- In the years 1970 to 9999 there is an instant since which a record must have been touched. -/
def Engine.SchedulerConfig.KeepsDates (config : SchedulerConfig) : Prop :=
  ∀ now : Instant, now.IsModern → ∃ before, now.sub? config.stuckAfter = some before

theorem RetryPolicy.keepsDates_iff {policy : RetryPolicy} {n : Int}
    (hbase : policy.baseUnit = .seconds n) : policy.KeepsDates ↔ 0 ≤ n ∧ n ≤ 7588257 := by
  constructor
  · intro h
    obtain ⟨⟨delay⟩, hdelay, hforward, hdue⟩ := h 20
    obtain ⟨last, hlast, hseconds, hnanos⟩ := Instant.exists_last_modern
    obtain ⟨due, hdue⟩ := hdue last hlast
    have hvalue : delay = n * 1000000000 * 1048576 := by
      have hnanoseconds := backoff?_eq_some hdelay
      rwa [hbase] at hnanoseconds
    obtain rfl : delay = n * 1048576 * 1000000000 := by omega
    have hrange := Instant.isSome_add?_seconds_iff.mp (Option.isSome_of_eq_some hdue)
    rw [Instant.anchor_of_nanos_lt hnanos, hseconds] at hrange
    have hnonneg : 0 ≤ n * 1048576 * 1000000000 := hforward
    omega
  · rintro ⟨hnonneg, hle⟩ count
    have hfactor : Nat.pow 2 (min count.toNat 20) ≤ Nat.pow 2 20 :=
      Nat.pow_le_pow_right (by decide) (Nat.min_le_right _ _)
    have hbackoff : policy.backoff? count =
        (Span.seconds n).times? (Nat.pow 2 (min count.toNat 20)) := hbase ▸ rfl
    generalize Nat.pow 2 (min count.toNat 20) = factor at hfactor hbackoff
    have hforward : 0 ≤ n * (factor : Int) := Int.mul_nonneg hnonneg (Int.natCast_nonneg factor)
    have hlongest : n * (factor : Int) ≤ 7588257 * 1048576 :=
      Int.mul_le_mul hle (Int.ofNat_le.mpr hfactor) (Int.natCast_nonneg factor) (by decide)
    rw [Span.times?_seconds (by omega) (by omega)] at hbackoff
    refine ⟨_, hbackoff, Int.mul_nonneg hforward (by decide), fun now hnow => ?_⟩
    have hseconds := Instant.isModern_iff.mp hnow
    refine Option.isSome_iff_exists.mp (Instant.isSome_add?_seconds_iff.mpr ?_)
    rw [Instant.anchor_of_nonneg hforward]
    omega

theorem Engine.SchedulerConfig.keepsDates_iff {config : SchedulerConfig} {n : Int}
    (hstuck : config.stuckAfter = .seconds n) (hpos : 0 < n) :
    config.KeepsDates ↔ n ≤ 8334601228800 := by
  have hback : config.stuckAfter.reverse = .seconds (-n) := by
    rw [hstuck, Span.reverse, Span.seconds, Span.seconds, Int.neg_mul]
  constructor
  · intro h
    obtain ⟨before, hbefore⟩ := h .epoch (Instant.isModern_iff.mpr (by decide))
    have hrange := Option.isSome_of_eq_some hbefore
    rw [Instant.sub?, hback, Instant.isSome_add?_seconds_iff,
      Instant.anchor_of_nanos_lt (by decide)] at hrange
    have hfirst : -8334601228800 ≤ 0 + -n := hrange.1
    omega
  · intro hle now hnow
    have hseconds := Instant.isModern_iff.mp hnow
    have hanchor := now.le_anchor (n := -n)
    refine Option.isSome_iff_exists.mp ?_
    rw [Instant.sub?, hback, Instant.isSome_add?_seconds_iff]
    omega

namespace Config

variable {c : Config}

/-- The settings make a retry policy and a scheduler, and both keep their dates. -/
structure KeepsDates (c : Config) : Prop where
  retries : ∃ policy, c.retryPolicy? = some policy ∧ policy.KeepsDates
  thresholds : ∃ config, c.scheduler? = some config ∧ config.KeepsDates

theorem retryPolicy?_eq_some_iff {policy : RetryPolicy} : c.retryPolicy? = some policy ↔
    (-9223372036854775 ≤ c.retryBaseSecs.toInt ∧ c.retryBaseSecs.toInt ≤ 9223372036854775) ∧
      policy = ⟨.seconds c.retryBaseSecs.toInt, c.defaultMaxRetries⟩ := by
  refine Option.bind_eq_some_iff.trans ⟨?_, ?_⟩
  · rintro ⟨s, hs, hpolicy⟩
    obtain ⟨hrange, rfl⟩ := Span.ofSeconds?_eq_some_iff.mp hs
    exact ⟨hrange, (Option.some.inj hpolicy).symm⟩
  · rintro ⟨hrange, rfl⟩
    exact ⟨_, Span.ofSeconds?_eq_some_iff.mpr ⟨hrange, rfl⟩, rfl⟩

theorem scheduler?_eq_some_iff {config : Engine.SchedulerConfig} : c.scheduler? = some config ↔
    (-9223372036854775 ≤ c.stuckAfterSecs.toInt ∧ c.stuckAfterSecs.toInt ≤ 9223372036854775) ∧
      config = ⟨c.schedulerIntervalSecs, c.schedulerBatchSize,
        .seconds c.stuckAfterSecs.toInt⟩ := by
  refine Option.bind_eq_some_iff.trans ⟨?_, ?_⟩
  · rintro ⟨s, hs, hconfig⟩
    obtain ⟨hrange, rfl⟩ := Span.ofSeconds?_eq_some_iff.mp hs
    exact ⟨hrange, (Option.some.inj hconfig).symm⟩
  · rintro ⟨hrange, rfl⟩
    exact ⟨_, Span.ofSeconds?_eq_some_iff.mpr ⟨hrange, rfl⟩, rfl⟩

theorem keepsDates_iff (hpos : 0 < c.stuckAfterSecs.toInt) : c.KeepsDates ↔
    0 ≤ c.retryBaseSecs.toInt ∧ c.retryBaseSecs.toInt ≤ 7588257 ∧
      c.stuckAfterSecs.toInt ≤ 8334601228800 := by
  constructor
  · rintro ⟨⟨policy, hpolicy, hretries⟩, config, hconfig, hthresholds⟩
    obtain ⟨-, rfl⟩ := retryPolicy?_eq_some_iff.mp hpolicy
    obtain ⟨-, rfl⟩ := scheduler?_eq_some_iff.mp hconfig
    have hbase := (RetryPolicy.keepsDates_iff rfl).mp hretries
    have hstuck := (Engine.SchedulerConfig.keepsDates_iff rfl hpos).mp hthresholds
    exact ⟨hbase.1, hbase.2, hstuck⟩
  · rintro ⟨hnonneg, hbase, hstuck⟩
    refine ⟨⟨_, retryPolicy?_eq_some_iff.mpr ⟨by omega, rfl⟩, ?_⟩,
      _, scheduler?_eq_some_iff.mpr ⟨by omega, rfl⟩, ?_⟩
    · exact (RetryPolicy.keepsDates_iff rfl).mpr ⟨hnonneg, hbase⟩
    · exact (Engine.SchedulerConfig.keepsDates_iff rfl hpos).mpr hstuck

theorem stuckAfter_pos (h : c.validate = .ok ()) : 0 < c.stuckAfterSecs.toInt := by
  have hneg : ¬ c.stuckAfterSecs < 0 := fun hneg => by simp [validate, hneg] at h
  have hexceeds : ¬ (Wait.ofSeconds c.stuckAfterSecs.toUInt64).nanoseconds ≤
      (c.maxExecutionTime.max (.ofSeconds c.txTimeoutSecs)).nanoseconds := by
    intro hle
    simp [validate, hneg, hle] at h
  have hthreshold : (Wait.ofSeconds c.stuckAfterSecs.toUInt64).nanoseconds =
      c.stuckAfterSecs.toInt.toNat * 1000000000 := by
    rw [Wait.ofSeconds, Int64.toNat_toUInt64_of_le (Int64.not_lt.mp hneg), ← Int64.toNat_toInt]
  omega

end Config

end Disburse
