import Disburse.Proofs.Text.Numeral
import Disburse.Proofs.Time.Calendar
import Disburse.Proofs.Time.Instant
import Disburse.Time.Stamp

namespace Disburse.Instant

open Disburse.Text
open Disburse.Calendar

/-- The year of an instant in universal time. -/
def year (t : Instant) : Int :=
  (Date.ofDayNumber (t.seconds / 86400)).year

/-- An instant of the years that are written in four digits, in no leap second. -/
structure IsOrdinary (t : Instant) : Prop where
  year_nonneg : 0 ≤ t.year
  year_le : t.year ≤ 9999
  nanos_lt : t.nanos < 1000000000

variable {rest : List Char}

/-- What may stand behind a number: anything but another digit. -/
def EndsNumber (rest : List Char) : Prop :=
  ∀ c ∈ rest.head?, c.isDigit = false

theorem endsNumber_cons {c : Char} (h : c.isDigit = false) : EndsNumber (c :: rest) := by
  simpa [EndsNumber] using h

theorem takeWhile_take_of_endsNumber (h : EndsNumber rest) (n : Nat) :
    (rest.take n).takeWhile Char.isDigit = [] := by
  cases rest with
  | nil => simp
  | cons c rest =>
      have hc := h c rfl
      cases n <;> simp [hc]

theorem readDigits_padded {width most n : Nat} (hwidth : 0 < width) (hmost : width ≤ most)
    (hn : n < Nat.pow 10 width) (hrest : EndsNumber rest) :
    readDigits most (Numeral.padded width n ++ rest) = some (n, rest) := by
  have hlength := Numeral.length_padded hwidth hn
  have hall : ∀ c ∈ Numeral.padded width n, c.isDigit = true :=
    fun _ hc => Numeral.isDigit_of_mem_padded hc
  have htake : ((Numeral.padded width n ++ rest).take most).takeWhile Char.isDigit =
      Numeral.padded width n := by
    rw [List.take_append, List.take_of_length_le (by omega), List.takeWhile_append_of_pos hall,
      takeWhile_take_of_endsNumber hrest, List.append_nil]
  have hvalue := Numeral.ofDigitChars_padded width n
  have hdrop : (Numeral.padded width n ++ rest).drop (Numeral.padded width n).length = rest :=
    List.drop_left
  obtain ⟨c, cs, hcs⟩ := List.exists_cons_of_length_pos (hlength ▸ hwidth)
  rw [readDigits, htake]
  rw [hcs] at hvalue hdrop ⊢
  simp only [hvalue, hdrop]

theorem isBlank_of_isDigit {c : Char} (h : c.isDigit = true) : isBlank c = false := by
  simp only [Char.isDigit, Bool.and_eq_true, decide_eq_true_eq, ge_iff_le,
    UInt32.le_iff_toNat_le] at h
  have hlow : 48 ≤ c.toNat := h.1
  have hhigh : c.toNat ≤ 57 := h.2
  simp [isBlank]
  omega

theorem exists_padded_eq_cons (width n : Nat) (hwidth : 0 < width) :
    ∃ c cs, Numeral.padded width n = c :: cs ∧ isBlank c = false ∧ c ≠ '-' ∧ c ≠ '+' := by
  obtain ⟨c, cs, hcs⟩ := List.exists_cons_of_length_pos
    (Nat.lt_of_lt_of_le hwidth (Numeral.le_length_padded width n))
  have hc : c.isDigit = true := Numeral.isDigit_of_mem_padded (hcs ▸ List.mem_cons_self)
  refine ⟨c, cs, hcs, isBlank_of_isDigit hc, ?_, ?_⟩
  · rintro rfl
    cases hc
  · rintro rfl
    cases hc

theorem trimStart_cons {c : Char} (h : isBlank c = false) (cs : List Char) :
    trimStart (c :: cs) = c :: cs := by
  simp [trimStart, h]

theorem readNumber_padded {n : Nat} (hn : n < 100) (hrest : EndsNumber rest) :
    readNumber 2 (Numeral.padded 2 n ++ rest) = some (n, rest) := by
  obtain ⟨c, cs, hcs, hblank, -⟩ := exists_padded_eq_cons 2 n (by decide)
  have htrim : trimStart (Numeral.padded 2 n ++ rest) = Numeral.padded 2 n ++ rest := by
    rw [hcs, List.cons_append, trimStart_cons hblank]
  rw [readNumber, htrim, readDigits_padded (by decide) (Nat.le_refl 2) hn hrest]

theorem readYear_yearChars {year : Int} (hnonneg : 0 ≤ year) (hle : year ≤ 9999)
    (hrest : EndsNumber rest) : readYear (yearChars year ++ rest) = some (year, rest) := by
  obtain ⟨n, rfl⟩ := Int.eq_ofNat_of_zero_le hnonneg
  obtain ⟨c, cs, hcs, hblank, hminus, hplus⟩ := exists_padded_eq_cons 4 n (by decide)
  have hread : readDigits 4 (Numeral.padded 4 n ++ rest) = some (n, rest) :=
    readDigits_padded (by decide) (Nat.le_refl 4) (Nat.lt_succ_of_le (Int.ofNat_le.mp hle)) hrest
  rw [yearChars, if_pos ⟨hnonneg, hle⟩, Int.toNat_natCast]
  rw [hcs, List.cons_append] at hread ⊢
  rw [readYear, trimStart_cons hblank]
  split
  · rename_i heq
    exact absurd (List.cons.inj heq).1 hminus
  · rename_i heq
    exact absurd (List.cons.inj heq).1 hplus
  · rw [hread]
    rfl

theorem expect_cons {c : Char} (h : isBlank c = false) (cs : List Char) :
    expect c (c :: cs) = some cs := by
  simp [expect, trimStart_cons h]

theorem readFraction_places {width k : Nat} (hwidth : 0 < width) (hmost : width ≤ 9)
    (hk : k < Nat.pow 10 width) (hrest : EndsNumber rest) :
    readFraction ('.' :: (Numeral.padded width k ++ rest)) =
      some (k * Nat.pow 10 (9 - width), rest) := by
  have hdrop : rest.dropWhile Char.isDigit = rest := by
    cases rest with
    | nil => rfl
    | cons c rest => simp [hrest c rfl]
  rw [readFraction, readDigits_padded hwidth hmost hk hrest]
  simp [hdrop, Numeral.length_padded hwidth hk]

theorem readFraction_fraction {nanos : Nat} (hnanos : nanos < 1000000000) :
    readFraction (fraction nanos ++ ['Z']) = some (nanos, ['Z']) := by
  have hrest : EndsNumber ['Z'] := endsNumber_cons (by decide)
  have hplaces : ∀ width k, 0 < width → width ≤ 9 → k < Nat.pow 10 width →
      k * Nat.pow 10 (9 - width) = nanos →
      readFraction ('.' :: Numeral.padded width k ++ ['Z']) = some (nanos, ['Z']) := by
    intro width k hwidth hmost hk hvalue
    rw [List.cons_append, readFraction_places hwidth hmost hk hrest, hvalue]
  unfold fraction
  by_cases hzero : nanos = 0
  · rw [if_pos hzero, hzero]
    rfl
  rw [if_neg hzero]
  by_cases hthree : nanos % 1000000 = 0
  · rw [if_pos hthree]
    exact hplaces 3 _ (by decide) (by decide)
      (show nanos / 1000000 < 1000 by omega) (show nanos / 1000000 * 1000000 = nanos by omega)
  rw [if_neg hthree]
  by_cases hsix : nanos % 1000 = 0
  · rw [if_pos hsix]
    exact hplaces 6 _ (by decide) (by decide)
      (show nanos / 1000 < 1000000 by omega) (show nanos / 1000 * 1000 = nanos by omega)
  rw [if_neg hsix]
  exact hplaces 9 _ (by decide) (by decide) hnanos (Nat.mul_one nanos)

theorem endsNumber_fraction (nanos : Nat) : EndsNumber (fraction nanos ++ ['Z']) := by
  unfold fraction
  split
  · exact endsNumber_cons (by decide)
  split
  · exact endsNumber_cons (by decide)
  split
  all_goals exact endsNumber_cons (by decide)

theorem ofParts?_ofDayNumber {t : Instant} (h : t.IsOrdinary) :
    ofParts? (Date.ofDayNumber (t.seconds / 86400)) ((t.seconds % 86400).toNat / 3600)
      ((t.seconds % 86400).toNat / 60 % 60) ((t.seconds % 86400).toNat % 60) t.nanos 0 =
        some t := by
  have hnonneg := h.year_nonneg
  have hle := h.year_le
  have hclock : ((t.seconds % 86400).toNat : Int) = t.seconds % 86400 :=
    Int.toNat_of_nonneg (Int.emod_nonneg _ (by decide))
  rw [year] at hnonneg hle
  generalize hdate : Date.ofDayNumber (t.seconds / 86400) = date at hnonneg hle
  have hvalid : date.IsValid := hdate ▸ isValid_ofDayNumber _
  have hday : date.dayNumber = t.seconds / 86400 := hdate ▸ dayNumber_ofDayNumber _
  generalize (t.seconds % 86400).toNat = clock at hclock
  have hsecond : decide (clock % 60 = 60) = false := decide_eq_false (by omega)
  have hseconds : t.seconds / 86400 * 86400 + (clock / 3600 : Nat) * 3600 +
      (clock / 60 % 60 : Nat) * 60 + (clock % 60 : Nat) - 0 = t.seconds := by omega
  rw [ofParts?, if_pos ⟨hvalid, by omega⟩, hday]
  simp only [hsecond, Bool.false_eq_true, if_false, Nat.add_zero]
  rw [hseconds, make?_self]

/-- The written form outside of leap seconds, part by part. -/
theorem chars_of_nanos_lt {t : Instant} (h : t.nanos < 1000000000) :
    t.chars = yearChars t.year ++
      '-' :: (Numeral.padded 2 (Date.ofDayNumber (t.seconds / 86400)).month ++
      '-' :: (Numeral.padded 2 (Date.ofDayNumber (t.seconds / 86400)).day ++
      'T' :: (Numeral.padded 2 ((t.seconds % 86400).toNat / 3600) ++
      ':' :: (Numeral.padded 2 ((t.seconds % 86400).toNat / 60 % 60) ++
      ':' :: (Numeral.padded 2 ((t.seconds % 86400).toNat % 60) ++
      (fraction t.nanos ++ ['Z'])))))) := by
  have hleap : decide (1000000000 ≤ t.nanos) = false := decide_eq_false (by omega)
  simp only [chars, year, hleap, Bool.false_eq_true, if_false, Nat.add_zero, List.append_assoc,
    List.cons_append]

theorem read?_toText {t : Instant} (h : t.IsOrdinary) : read? t.toText = some t := by
  have hvalid := isValid_ofDayNumber (t.seconds / 86400)
  have hmonth : (Date.ofDayNumber (t.seconds / 86400)).month < 100 :=
    Nat.lt_of_le_of_lt hvalid.2.1 (by decide)
  have hday : (Date.ofDayNumber (t.seconds / 86400)).day < 100 :=
    Nat.lt_of_le_of_lt hvalid.day_le (by decide)
  have hparts := ofParts?_ofDayNumber h
  have hclock : (t.seconds % 86400).toNat < 86400 := by omega
  rw [read?, toText, String.toList_ofList, chars_of_nanos_lt h.nanos_lt]
  generalize (t.seconds % 86400).toNat = clock at hparts hclock
  have hhour : clock / 3600 < 100 := by omega
  have hminute : clock / 60 % 60 < 100 := by omega
  have hsecond : clock % 60 < 100 := by omega
  -- The date, up to the mark in front of the time of day.
  simp only [Option.bind_eq_bind, Option.bind_some,
    readYear_yearChars h.year_nonneg h.year_le (endsNumber_cons (c := '-') (by decide)),
    expect_cons (c := '-') (by decide),
    readNumber_padded hmonth (endsNumber_cons (c := '-') (by decide)),
    readNumber_padded hday (endsNumber_cons (c := 'T') (by decide))]
  -- The time of day and the offset.
  simp only [ne_eq, not_true_eq_false, and_false, false_and, if_false, Option.bind_some,
    readNumber_padded hhour (endsNumber_cons (c := ':') (by decide)),
    expect_cons (c := ':') (by decide),
    readNumber_padded hminute (endsNumber_cons (c := ':') (by decide)),
    readNumber_padded hsecond (endsNumber_fraction t.nanos),
    readFraction_fraction h.nanos_lt, trimStart_cons (c := 'Z') (by decide)]
  exact hparts

end Disburse.Instant
