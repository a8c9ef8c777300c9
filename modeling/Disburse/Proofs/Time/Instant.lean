import Disburse.Time.Instant

/-!
Instants in whole milliseconds. Every instant has such a number; the instant of that number differs
from it in the places that the number drops, and it is absent for one leap second only.
-/

namespace Disburse.Instant

variable {t u : Instant}

theorem ext {t u : Instant} (hseconds : t.seconds = u.seconds) (hnanos : t.nanos = u.nanos) :
    t = u := by
  cases t
  cases u
  simp_all

theorem eq_iff : t = u ↔ t.seconds = u.seconds ∧ t.nanos = u.nanos := by
  constructor
  · rintro rfl
    exact ⟨rfl, rfl⟩
  · exact fun h => ext h.1 h.2

theorem ble_iff : t.ble u = true ↔
    t.seconds < u.seconds ∨ (t.seconds = u.seconds ∧ t.nanos ≤ u.nanos) := by
  simp [ble]

theorem blt_iff : t.blt u = true ↔
    t.seconds < u.seconds ∨ (t.seconds = u.seconds ∧ t.nanos < u.nanos) := by
  simp [blt]

theorem make?_self (t : Instant) : make? t.seconds t.nanos = some t := by
  simpa [make?, t.seconds_ge, t.seconds_le, t.nanos_lt] using t.leap

theorem reading?_of_nonneg (h : 0 ≤ t.seconds) : t.reading? = some t :=
  if_pos h

theorem reading?_of_neg (h : t.seconds < 0) : t.reading? = none :=
  if_neg (by omega)

theorem reading?_eq_some_iff : t.reading? = some u ↔ 0 ≤ t.seconds ∧ t = u := by
  simp [reading?]

theorem reading?_eq_none_iff : t.reading? = none ↔ t.seconds < 0 := by
  simp [reading?]

/-- An instant before the leap second at the end of the last year. -/
def HasMillisecond (t : Instant) : Prop :=
  t.seconds = 8210266876799 → t.nanos < 1000000000

instance (t : Instant) : Decidable t.HasMillisecond :=
  inferInstanceAs (Decidable (_ → _))

/-- A whole number of milliseconds, in no leap second. -/
structure IsWhole (t : Instant) : Prop where
  nanos_lt : t.nanos < 1000000000
  nanos_mod : t.nanos % 1000000 = 0

/-- The instant of the whole milliseconds, where there is one. -/
def inMilliseconds (t : Instant) : Instant :=
  (ofMilliseconds? t.toMilliseconds).getD t

theorem ofMilliseconds?_toMilliseconds (h : t.HasMillisecond) :
    ofMilliseconds? t.toMilliseconds = some t.inMilliseconds := by
  have hge := t.seconds_ge
  have hle := t.seconds_le
  have hnanos := t.nanos_lt
  have hlast : ¬ (t.seconds = 8210266876799 ∧ 1000000000 ≤ t.nanos) := by
    rintro ⟨hseconds, hleap⟩
    exact Nat.not_lt_of_le hleap (h hseconds)
  have hsome : (ofMilliseconds? t.toMilliseconds).isSome := by
    rw [ofMilliseconds?, make?, toMilliseconds, dif_pos (by omega), dif_pos (by omega),
      dif_pos (by omega), dif_pos (by omega)]
    rfl
  rw [inMilliseconds, Option.getD_of_ne_none (Option.isSome_iff_ne_none.mp hsome)]

theorem ofMilliseconds?_of_not_hasMillisecond (h : ¬ t.HasMillisecond) :
    ofMilliseconds? t.toMilliseconds = none := by
  obtain ⟨hseconds, hleap⟩ := Classical.not_imp.mp h
  rw [ofMilliseconds?, make?, toMilliseconds, dif_pos (by omega), dif_neg (by omega)]

theorem toMilliseconds_bounds (t : Instant) :
    -9223372036854775808 ≤ t.toMilliseconds ∧ t.toMilliseconds < 9223372036854775808 := by
  have hge := t.seconds_ge
  have hle := t.seconds_le
  have hnanos := t.nanos_lt
  rw [toMilliseconds]
  omega

theorem IsWhole.hasMillisecond (h : t.IsWhole) : t.HasMillisecond := by
  intro _
  exact h.nanos_lt

theorem IsWhole.inMilliseconds (h : t.IsWhole) : t.inMilliseconds = t := by
  have hlt := h.nanos_lt
  have hmod := h.nanos_mod
  have hseconds : t.toMilliseconds / 1000 = t.seconds := by
    rw [toMilliseconds]
    omega
  have hnanos : (t.toMilliseconds % 1000).toNat * 1000000 = t.nanos := by
    rw [toMilliseconds]
    omega
  rw [Instant.inMilliseconds, ofMilliseconds?, hseconds, hnanos, make?_self, Option.getD_some]

theorem IsWhole.ble_iff (ht : t.IsWhole) (hu : u.IsWhole) :
    t.ble u = true ↔ t.toMilliseconds ≤ u.toMilliseconds := by
  have := ht.nanos_lt
  have := ht.nanos_mod
  have := hu.nanos_lt
  have := hu.nanos_mod
  rw [Instant.ble_iff, toMilliseconds, toMilliseconds]
  omega

theorem IsWhole.blt_iff (ht : t.IsWhole) (hu : u.IsWhole) :
    t.blt u = true ↔ t.toMilliseconds < u.toMilliseconds := by
  have := ht.nanos_lt
  have := ht.nanos_mod
  have := hu.nanos_lt
  have := hu.nanos_mod
  rw [Instant.blt_iff, toMilliseconds, toMilliseconds]
  omega

theorem IsWhole.eq_iff (ht : t.IsWhole) (hu : u.IsWhole) :
    t = u ↔ t.toMilliseconds = u.toMilliseconds := by
  have := ht.nanos_lt
  have := ht.nanos_mod
  have := hu.nanos_lt
  have := hu.nanos_mod
  rw [Instant.eq_iff, toMilliseconds, toMilliseconds]
  omega

end Disburse.Instant
