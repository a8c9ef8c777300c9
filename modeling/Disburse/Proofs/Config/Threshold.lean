import Disburse.Config
import Disburse.Proofs.Time.Wait
import Mathlib.Tactic.Ring

namespace Disburse.Config

variable (c : Config)

/-- The milliseconds that an execution takes at most, without any limit on their number. -/
def longestExecution : Nat :=
  let request := 1000 * c.httpTimeoutSecs.toNat
  (2 + if c.simulateBeforeSubmit then 1 else 0) * request +
    c.confirmMaxAttempts.toNat * (c.confirmPollIntervalMs.toNat + request)

theorem maxExecutionTime_eq_cut :
    c.maxExecutionTime = .cut (c.longestExecution * 1000000) := by
  simp only [maxExecutionTime, longestExecution, Wait.ofSeconds_eq_cut, Wait.ofMilliseconds_eq_cut,
    Wait.add_cut, Wait.times_cut]
  congr 1
  split <;> ring

/-- The settings are accepted if and only if the threshold is not negative and exceeds both the
validity of a transaction and the longest execution; sums that are cut off decide nothing. -/
theorem validate_eq_ok_iff : c.validate = .ok () ↔
    0 ≤ c.stuckAfterSecs.toInt ∧
      1000 * (c.txTimeoutSecs.toNat : Int) < 1000 * c.stuckAfterSecs.toInt ∧
      (c.longestExecution : Int) < 1000 * c.stuckAfterSecs.toInt := by
  have hsign : c.stuckAfterSecs < 0 ↔ c.stuckAfterSecs.toInt < 0 := by
    rw [Int64.lt_iff_toInt_lt, Int64.toInt_zero]
  by_cases hneg : c.stuckAfterSecs.toInt < 0
  · have hrefused : c.validate ≠ .ok () := by simp [validate, hsign.mpr hneg]
    exact iff_of_false hrefused fun h => by omega
  obtain ⟨n, hn⟩ := Int.eq_ofNat_of_zero_le (Int.not_lt.mp hneg)
  have hthreshold : Wait.ofSeconds c.stuckAfterSecs.toUInt64 = ⟨n * 1000000000⟩ := by
    have hle : 0 ≤ c.stuckAfterSecs := Int64.not_lt.mp (hneg ∘ hsign.mp)
    rw [Wait.ofSeconds, Int64.toNat_toUInt64_of_le hle, ← Int64.toNat_toInt, hn, Int.toNat_natCast]
  have hlongest : n * 1000000000 ≤ Wait.longest.nanoseconds := by
    have := c.stuckAfterSecs.toInt_lt
    simp only [Wait.longest, UInt64.size]
    omega
  have hexceeds := Wait.max_cut_lt_iff (m := c.longestExecution * 1000000)
    (n := c.txTimeoutSecs.toNat * 1000000000) hlongest
  rw [← maxExecutionTime_eq_cut, ← Wait.ofSeconds_eq_cut] at hexceeds
  rw [validate, if_neg (hneg ∘ hsign.mp), hthreshold, ite_eq_right_iff, imp_iff_not (by simp),
    Nat.not_le, hexceeds, hn]
  omega

end Disburse.Config
