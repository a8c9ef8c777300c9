import Disburse.Proofs.Time.Stamp
import Mathlib.Order.Monotone.Basic

namespace Disburse

namespace Span

def seconds (n : Int) : Span :=
  ⟨n * 1000000000⟩

theorem ofSeconds?_eq_some_iff {n : Int} {s : Span} : ofSeconds? n = some s ↔
    (-9223372036854775 ≤ n ∧ n ≤ 9223372036854775) ∧ s = .seconds n := by
  have hlimit : maxMilliseconds = 9223372036854775807 := Int64.toInt_maxValue
  have hvalue : (⟨n * 1000 * 1000000⟩ : Span) = .seconds n := by
    rw [seconds, Int.mul_assoc]
    rfl
  rw [ofSeconds?, ofMilliseconds?, hlimit, hvalue]
  by_cases hrange : -9223372036854775 ≤ n ∧ n ≤ 9223372036854775
  · rw [if_pos (by omega), Option.some.injEq]
    exact ⟨fun h => ⟨hrange, h.symm⟩, fun h => h.2.symm⟩
  · rw [if_neg (by omega)]
    exact iff_of_false nofun fun h => hrange h.1

theorem times?_seconds {n : Int} {k : Nat} (hlow : -9223372036854775808 < n * k)
    (hhigh : n * k < 9223372036854775807) : (seconds n).times? k = some (.seconds (n * k)) := by
  have hproduct : n * 1000000000 * (k : Int) = n * k * 1000000000 := by
    rw [Int.mul_assoc, Int.mul_comm 1000000000, Int.mul_assoc]
  simp only [times?, seconds, hproduct, Int64.toInt_minValue, Int64.toInt_maxValue]
  rw [if_pos (by omega)]

end Span

namespace Instant

variable {t : Instant} {n : Int}

theorem isSome_make?_iff {nanos : Nat} (hnanos : nanos < 1000000000) :
    (make? n nanos).isSome ↔ -8334601228800 ≤ n ∧ n ≤ 8210266876799 := by
  unfold make?
  split
  · split
    · rw [dif_pos (by omega), dif_pos (by omega)]
      exact ⟨fun _ => ⟨‹_›, ‹_›⟩, fun _ => rfl⟩
    · exact iff_of_false Bool.false_ne_true (by omega)
  · exact iff_of_false Bool.false_ne_true (by omega)

theorem isSome_ofNanoseconds?_iff : (ofNanoseconds? n).isSome ↔
    -8334601228800 ≤ n / 1000000000 ∧ n / 1000000000 ≤ 8210266876799 :=
  isSome_make?_iff (by omega)

/-- A leap second that is moved back is counted as the second behind it. -/
def anchor (t : Instant) (n : Int) : Int :=
  if 1000000000 ≤ t.nanos ∧ n < 0 then t.seconds + 1 else t.seconds

theorem anchor_of_nonneg (hn : 0 ≤ n) : t.anchor n = t.seconds :=
  if_neg (by omega)

theorem anchor_of_nanos_lt (h : t.nanos < 1000000000) : t.anchor n = t.seconds :=
  if_neg (by omega)

theorem le_anchor : t.seconds ≤ t.anchor n ∧ t.anchor n ≤ t.seconds + 1 := by
  unfold anchor
  split <;> omega

theorem isSome_add?_seconds_iff : (t.add? (.seconds n)).isSome ↔
    -8334601228800 ≤ t.anchor n + n ∧ t.anchor n + n ≤ 8210266876799 := by
  have hge := t.seconds_ge
  have hle := t.seconds_le
  have hnanos := t.nanos_lt
  have hseconds : (n * 1000000000).tdiv 1000000000 = n := Int.mul_tdiv_cancel n (by decide)
  have hrest : (n * 1000000000).tmod 1000000000 = 0 := Int.mul_tmod_left n 1000000000
  simp only [add?, Span.seconds, hseconds, hrest]
  by_cases hleap : t.nanos < 1000000000
  · rw [if_pos hleap, isSome_ofNanoseconds?_iff, anchor_of_nanos_lt hleap]
    omega
  rw [if_neg hleap]
  rcases Int.lt_trichotomy n 0 with hneg | rfl | hpos
  · rw [if_neg (by omega), if_pos hneg, isSome_ofNanoseconds?_iff, anchor, if_pos (by omega)]
    omega
  · have hself : make? t.seconds ((t.nanos : Int) + 0).toNat = some t := make?_self t
    rw [if_neg (by omega), if_neg (by omega), hself, anchor_of_nonneg (Int.le_refl 0)]
    exact iff_of_true rfl (by omega)
  · rw [if_pos (.inl hpos), isSome_ofNanoseconds?_iff, anchor_of_nonneg (Int.le_of_lt hpos)]
    omega

end Instant

theorem Calendar.daysBeforeYear_le {year later : Int} (h : year ≤ later) :
    daysBeforeYear year ≤ daysBeforeYear later := by
  refine monotone_int_of_le_succ (fun year => ?_) h
  rw [daysBeforeYear_succ]
  split <;> omega

theorem Calendar.le_yearOfDay_iff {year day : Int} :
    year ≤ yearOfDay day ↔ daysBeforeYear year ≤ day := by
  obtain ⟨hfrom, hto⟩ := yearOfDay_bounds day
  constructor
  · exact fun h => Int.le_trans (daysBeforeYear_le h) hfrom
  · intro h
    by_contra hlater
    have hnext : daysBeforeYear (yearOfDay day + 1) ≤ daysBeforeYear year :=
      daysBeforeYear_le (by omega)
    omega

/-- An instant of the years 1970 to 9999. -/
def Instant.IsModern (t : Instant) : Prop :=
  1970 ≤ t.year ∧ t.year ≤ 9999

theorem Instant.isModern_iff {t : Instant} :
    t.IsModern ↔ 0 ≤ t.seconds ∧ t.seconds ≤ 253402300799 := by
  have hyear : ∀ year, year ≤ t.year ↔
      Calendar.daysBeforeYear year ≤ t.seconds / 86400 + Calendar.epochShift :=
    fun _ => Calendar.le_yearOfDay_iff
  have hfirst : Calendar.daysBeforeYear 1970 = Calendar.epochShift := by decide
  have hlast : Calendar.daysBeforeYear 10000 = Calendar.epochShift + 2932897 := by decide
  have hfrom := hyear 1970
  have hto := hyear 10000
  rw [hfirst] at hfrom
  rw [hlast] at hto
  unfold IsModern
  omega

theorem Instant.exists_last_modern :
    ∃ t : Instant, t.IsModern ∧ t.seconds = 253402300799 ∧ t.nanos < 1000000000 := by
  refine ⟨⟨253402300799, 0, by decide, by decide, by decide, by decide⟩, ?_, rfl, by decide⟩
  exact isModern_iff.mpr (by decide)

end Disburse
