import Disburse.Time.Calendar

namespace Disburse.Calendar

theorem isLeap_iff (year : Int) :
    isLeap year = true ↔ year % 4 = 0 ∧ (year % 100 ≠ 0 ∨ year % 400 = 0) := by
  simp [isLeap]

theorem daysBeforeYear_succ (year : Int) :
    daysBeforeYear (year + 1) = daysBeforeYear year + if isLeap year then 366 else 365 := by
  have hleap := isLeap_iff year
  simp only [daysBeforeYear]
  by_cases h : isLeap year = true
  · have := hleap.mp h
    rw [if_pos h]
    omega
  · have := mt hleap.mpr h
    rw [if_neg h]
    omega

theorem daysBeforeYear_bounds (year : Int) :
    146097 * year - 400 ≤ 400 * daysBeforeYear year ∧
      400 * daysBeforeYear year < 146097 * year + 800 := by
  simp only [daysBeforeYear]
  omega

theorem yearOfDay_bounds (day : Int) :
    daysBeforeYear (yearOfDay day) ≤ day ∧ day < daysBeforeYear (yearOfDay day + 1) := by
  have hguess := daysBeforeYear_bounds (400 * day / 146097)
  have hbefore := daysBeforeYear_bounds (400 * day / 146097 - 1)
  have hafter := daysBeforeYear_bounds (400 * day / 146097 + 1 + 1)
  simp only [yearOfDay]
  split
  · rw [Int.sub_add_cancel]
    omega
  · split <;> omega

theorem monthOfDay_spec (lengths : List Nat) (day : Nat) (h : day < lengths.foldr (· + ·) 0) :
    (monthOfDay lengths day).1 < lengths.length ∧
      (monthOfDay lengths day).2 < lengths.getD (monthOfDay lengths day).1 0 ∧
      (lengths.take (monthOfDay lengths day).1).foldr (· + ·) ((monthOfDay lengths day).2 + 1) =
        day + 1 := by
  induction lengths generalizing day with
  | nil => cases h
  | cons length rest ih =>
      rw [List.foldr_cons] at h
      by_cases hday : day < length
      · simp [monthOfDay, hday]
      · obtain ⟨hmonth, hrest, hsum⟩ := ih (day - length) (by omega)
        simp only [monthOfDay, hday, if_false, List.length_cons, List.getD_cons_succ,
          List.take_succ_cons, List.foldr_cons]
        omega

theorem length_monthLengths (leap : Bool) : (monthLengths leap).length = 12 := rfl

theorem sum_monthLengths (leap : Bool) :
    (monthLengths leap).foldr (· + ·) 0 = if leap then 366 else 365 := by
  cases leap <;> rfl

theorem monthLengths_le : ∀ leap : Bool, ∀ month < 12, (monthLengths leap).getD month 0 ≤ 31 := by
  decide

theorem Date.IsValid.day_le {d : Date} (h : d.IsValid) : d.day ≤ 31 := by
  obtain ⟨hmonth, hmonth', -, hday⟩ := h
  exact Nat.le_trans hday (monthLengths_le _ _ (by omega))

theorem isValid_ofDayNumber_and_dayNumber (n : Int) :
    (Date.ofDayNumber n).IsValid ∧ (Date.ofDayNumber n).dayNumber = n := by
  obtain ⟨hfrom, hto⟩ := yearOfDay_bounds (n + epochShift)
  rw [daysBeforeYear_succ] at hto
  simp only [Date.ofDayNumber, Date.IsValid, Date.dayNumber, Nat.add_sub_cancel]
  generalize yearOfDay (n + epochShift) = year at hfrom hto
  obtain ⟨day, hday⟩ := Int.eq_ofNat_of_zero_le (Int.sub_nonneg_of_le hfrom)
  have hsum : day < (monthLengths (isLeap year)).foldr (· + ·) 0 := by
    rw [sum_monthLengths]
    by_cases hleap : isLeap year = true
    · rw [if_pos hleap] at hto ⊢
      omega
    · rw [if_neg hleap] at hto ⊢
      omega
  obtain ⟨hmonth, hrest, htotal⟩ := monthOfDay_spec _ day hsum
  rw [length_monthLengths] at hmonth
  rw [hday, Int.toNat_natCast, htotal]
  omega

theorem isValid_ofDayNumber (n : Int) : (Date.ofDayNumber n).IsValid :=
  (isValid_ofDayNumber_and_dayNumber n).1

@[simp] theorem dayNumber_ofDayNumber (n : Int) : (Date.ofDayNumber n).dayNumber = n :=
  (isValid_ofDayNumber_and_dayNumber n).2

end Disburse.Calendar
