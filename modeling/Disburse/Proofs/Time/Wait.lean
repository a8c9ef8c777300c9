import Disburse.Time.Wait

namespace Disburse.Wait

/-- The waiting time of so many nanoseconds, or the longest one. -/
def cut (n : Nat) : Wait :=
  ⟨min longest.nanoseconds n⟩

theorem ofSeconds_eq_cut (n : UInt64) : ofSeconds n = cut (n.toNat * 1000000000) := by
  have hn := n.toNat_lt
  simp only [ofSeconds, cut, longest, UInt64.size, Wait.mk.injEq]
  omega

theorem ofMilliseconds_eq_cut (n : UInt64) : ofMilliseconds n = cut (n.toNat * 1000000) := by
  have hn := n.toNat_lt
  simp only [ofMilliseconds, cut, longest, UInt64.size, Wait.mk.injEq]
  omega

theorem add_cut (m n : Nat) : (cut m).add (cut n) = cut (m + n) := by
  simp only [add, cut, Wait.mk.injEq]
  omega

theorem times_cut (k n : Nat) : (cut n).times k = cut (k * n) := by
  simp only [times, cut, Wait.mk.injEq]
  rcases Nat.le_total n longest.nanoseconds with hle | hle
  · rw [Nat.min_eq_right hle]
  rw [Nat.min_eq_left hle]
  rcases Nat.eq_zero_or_pos k with rfl | hk
  · simp
  have hcut : longest.nanoseconds ≤ k * longest.nanoseconds := Nat.le_mul_of_pos_left _ hk
  have hexact : longest.nanoseconds ≤ k * n := Nat.le_trans hcut (Nat.mul_le_mul_left k hle)
  rw [Nat.min_eq_left hcut, Nat.min_eq_left hexact]

theorem max_cut_lt_iff {m n k : Nat} (hk : k ≤ longest.nanoseconds) :
    ((cut m).max (cut n)).nanoseconds < k ↔ m < k ∧ n < k := by
  have hmax : ((cut m).max (cut n)).nanoseconds < k ↔
      (cut m).nanoseconds < k ∧ (cut n).nanoseconds < k := Nat.max_lt
  rw [hmax]
  simp only [cut]
  omega

end Disburse.Wait
