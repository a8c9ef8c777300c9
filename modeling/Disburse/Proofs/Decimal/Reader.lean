import Disburse.Decimal.Reader
import Disburse.Proofs.Text.Numeral
import Mathlib.Data.List.TakeWhile

namespace Disburse.Decimal

open Disburse.Text

variable (negative : Bool) {m scale : Nat} {ds fs tail : List Char}

theorem le_ofDigitChars (ds : List Char) (m : Nat) : m ≤ Nat.ofDigitChars 10 ds m := by
  induction ds generalizing m with
  | nil => exact Nat.le_refl m
  | cons c ds ih =>
      rw [Nat.ofDigitChars_cons]
      have := ih (10 * m + (c.toNat - '0'.toNat))
      omega

theorem ofDigitChars_cons_eq (c : Char) (ds : List Char) (m : Nat) :
    Nat.ofDigitChars 10 (c :: ds) m = Nat.ofDigitChars 10 ds (m * 10 + digitValue c) := by
  rw [Nat.ofDigitChars_cons, Nat.mul_comm 10 m]
  rfl

theorem readWide_fraction (hds : ∀ c ∈ ds, c.isDigit = true)
    (hfits : Nat.ofDigitChars 10 ds m < mantissaLimit) (hscale : scale + ds.length ≤ 28) :
    readWide negative true m scale ds =
      .ok (ofParts negative (Nat.ofDigitChars 10 ds m) (scale + ds.length)) := by
  induction ds generalizing m scale with
  | nil => rfl
  | cons c ds ih =>
      obtain ⟨hc, hds⟩ := List.forall_mem_cons.mp hds
      rw [ofDigitChars_cons_eq] at hfits ⊢
      have hle := le_ofDigitChars ds (m * 10 + digitValue c)
      have hscale' : scale + 1 + ds.length ≤ 28 := by
        rw [List.length_cons] at hscale
        omega
      rw [readWide, if_pos hc, if_neg (by omega), List.length_cons, Nat.add_comm ds.length,
        ← Nat.add_assoc, ← ih hds hfits hscale']
      by_cases hlast : 28 ≤ scale + 1
      · obtain rfl : ds = [] := List.eq_nil_of_length_eq_zero (by omega)
        simp [hlast, readWide]
      · simp [hlast]

theorem readWide_digits (hds : ∀ c ∈ ds, c.isDigit = true)
    (hfits : Nat.ofDigitChars 10 ds m < mantissaLimit) :
    readWide negative false m scale (ds ++ tail) =
      readWide negative false (Nat.ofDigitChars 10 ds m) scale tail := by
  induction ds generalizing m with
  | nil => rfl
  | cons c ds ih =>
      obtain ⟨hc, hds⟩ := List.forall_mem_cons.mp hds
      rw [ofDigitChars_cons_eq] at hfits ⊢
      have hle := le_ofDigitChars ds (m * 10 + digitValue c)
      rw [List.cons_append, readWide, if_pos hc, if_neg (by omega)]
      simp [ih hds hfits]

/-- Digits in front of a point and behind it; the point is missing if there are none behind it. -/
structure Written (ds fs tail : List Char) : Prop where
  whole : ∀ c ∈ ds, c.isDigit = true
  places : ∀ c ∈ fs, c.isDigit = true
  tail : tail = [] ∧ fs = [] ∨ tail = '.' :: fs
  length : fs.length ≤ 28

theorem isDigit_point : ¬ ('.' : Char).isDigit = true := by
  decide

theorem readWide_written (h : Written ds fs tail)
    (hfits : Nat.ofDigitChars 10 (ds ++ fs) m < mantissaLimit) :
    readWide negative false m 0 (ds ++ tail) =
      .ok (ofParts negative (Nat.ofDigitChars 10 (ds ++ fs) m) fs.length) := by
  rw [Nat.ofDigitChars_append] at hfits ⊢
  have hwhole := Nat.lt_of_le_of_lt (le_ofDigitChars fs _) hfits
  have hlength : 0 + fs.length ≤ 28 := (Nat.zero_add _).symm ▸ h.length
  rw [readWide_digits negative h.whole hwhole]
  rcases h.tail with ⟨rfl, rfl⟩ | rfl
  · rfl
  · rw [readWide, if_neg isDigit_point]
    simp [readWide_fraction negative h.places hfits hlength]

theorem readNarrow_fraction (hds : ∀ c ∈ ds, c.isDigit = true)
    (hfits : Nat.ofDigitChars 10 ds m < mantissaLimit) (hscale : scale + ds.length ≤ 28) :
    readNarrow negative true true m scale ds =
      .ok (ofParts negative (Nat.ofDigitChars 10 ds m) (scale + ds.length)) := by
  induction ds generalizing m scale with
  | nil => rfl
  | cons c ds ih =>
      obtain ⟨hc, hds⟩ := List.forall_mem_cons.mp hds
      rw [ofDigitChars_cons_eq] at hfits ⊢
      have hscale' : scale + 1 + ds.length ≤ 28 := by
        rw [List.length_cons] at hscale
        omega
      rw [readNarrow, if_pos hc, List.length_cons, Nat.add_comm ds.length, ← Nat.add_assoc]
      cases ds with
      | nil => rfl
      | cons next behind =>
          have hroom : ¬ 28 ≤ scale + 1 := by
            rw [List.length_cons] at hscale'
            omega
          by_cases hwide : wideFrom ≤ m * 10 + digitValue c
          · simp [hroom, hwide, readWide_fraction negative hds hfits hscale']
          · simp [hroom, hwide, ih hds hfits hscale']

theorem readNarrow_written {started : Bool} (h : Written ds fs tail)
    (hstarted : started = true ∨ ds ≠ [])
    (hfits : Nat.ofDigitChars 10 (ds ++ fs) m < mantissaLimit) :
    readNarrow negative false started m 0 (ds ++ tail) =
      .ok (ofParts negative (Nat.ofDigitChars 10 (ds ++ fs) m) fs.length) := by
  induction ds generalizing m started with
  | nil =>
      obtain rfl := hstarted.resolve_right (by simp)
      have hlength : 0 + fs.length ≤ 28 := (Nat.zero_add _).symm ▸ h.length
      rcases h.tail with ⟨rfl, rfl⟩ | rfl
      · rfl
      · rw [List.nil_append, readNarrow.eq_def]
        have hrest := readNarrow_fraction negative h.places hfits hlength
        simp [isDigit_point, hrest]
  | cons c ds ih =>
      obtain ⟨hc, hds⟩ := List.forall_mem_cons.mp h.whole
      have hrest : Written ds fs tail := ⟨hds, h.places, h.tail, h.length⟩
      rw [List.cons_append, ofDigitChars_cons_eq] at hfits
      rw [List.cons_append, List.cons_append, ofDigitChars_cons_eq, readNarrow.eq_def]
      have hnarrow := ih hrest (.inl rfl) hfits
      have hwide := readWide_written negative hrest hfits
      cases hnext : ds ++ tail with
      | nil =>
          obtain ⟨rfl, rfl⟩ := List.append_eq_nil_iff.mp hnext
          obtain rfl : fs = [] := by simpa using h.tail
          simp [hc]
      | cons next behind =>
          rw [hnext] at hnarrow hwide
          by_cases hlarge : wideFrom ≤ m * 10 + digitValue c
          · simp [hc, hlarge, hwide]
          · simp [hc, hlarge, hnarrow]

variable (d : Decimal)

/-- The amount with the same parts, without the sign of a zero. -/
def dropZeroSign : Decimal :=
  ofParts d.negative d.mantissa d.scale

theorem dropZeroSign_eq_self (h : d.negative = true → 0 < d.mantissa) : d.dropZeroSign = d := by
  obtain ⟨negative, mantissa, scale, hmantissa, hscale⟩ := d
  have hsign : (negative && mantissa != 0) = negative := by
    cases negative with
    | false => rfl
    | true => simpa using Nat.ne_of_gt (h rfl)
  simp [dropZeroSign, ofParts, Nat.mod_eq_of_lt hmantissa,
    Nat.mod_eq_of_lt (Nat.lt_succ_of_le hscale), hsign]

/-- Amounts of the same worth and with as many places; a zero may have a sign or not. -/
def Same (a b : Decimal) : Prop :=
  a = b ∨ (a.mantissa = 0 ∧ b.mantissa = 0 ∧ a.scale = b.scale)

theorem same_dropZeroSign : d.dropZeroSign.Same d := by
  by_cases h : d.mantissa = 0
  · have hzero : d.mantissa % mantissaLimit = 0 := by rw [h, Nat.zero_mod]
    exact .inr ⟨hzero, h, Nat.mod_eq_of_lt (Nat.lt_succ_of_le d.scale_le)⟩
  · exact .inl (d.dropZeroSign_eq_self fun _ => Nat.pos_of_ne_zero h)

theorem digits_append : d.digits.1 ++ d.digits.2 = Numeral.padded (d.scale + 1) d.mantissa :=
  List.take_append_drop ..

theorem length_places : d.digits.2.length = d.scale := by
  have hlength := Numeral.le_length_padded (d.scale + 1) d.mantissa
  rw [digits, List.length_drop]
  omega

theorem whole_ne_nil : d.digits.1 ≠ [] := by
  have hlength := congrArg List.length d.digits_append
  have hpadded := Numeral.le_length_padded (d.scale + 1) d.mantissa
  rw [List.length_append, length_places] at hlength
  intro hnil
  rw [hnil, List.length_nil] at hlength
  omega

theorem ofDigitChars_digits_append :
    Nat.ofDigitChars 10 (d.digits.1 ++ d.digits.2) 0 = d.mantissa := by
  rw [digits_append, Numeral.ofDigitChars_padded]

theorem written_digits : Written d.digits.1 d.digits.2
    ((if d.scale = 0 then [] else ['.']) ++ d.digits.2) where
  whole c hc := Numeral.isDigit_of_mem_padded (List.mem_of_mem_take hc)
  places c hc := Numeral.isDigit_of_mem_padded (List.mem_of_mem_drop hc)
  tail := by
    by_cases hscale : d.scale = 0
    · have hnil : d.digits.2 = [] := List.eq_nil_of_length_eq_zero (d.length_places.trans hscale)
      exact .inl (by simp [hscale, hnil])
    · exact .inr (by simp [hscale])
  length := d.length_places ▸ d.scale_le

theorem readPlain_digit {c : Char} {cs : List Char} (hc : c.isDigit = true) :
    readPlain (c :: cs) = readNarrow false false false 0 0 (c :: cs) := by
  unfold readPlain
  split
  all_goals rename_i heq
  · cases heq
  · cases heq
    cases hc
  · cases heq
    cases hc
  · rfl

theorem readPlain_chars : readPlain d.chars = .ok d.dropZeroSign := by
  have hfits : Nat.ofDigitChars 10 (d.digits.1 ++ d.digits.2) 0 < mantissaLimit :=
    d.ofDigitChars_digits_append ▸ d.mantissa_lt
  have hread : readNarrow d.negative false false 0 0
      (d.digits.1 ++ ((if d.scale = 0 then [] else ['.']) ++ d.digits.2)) = .ok d.dropZeroSign := by
    rw [readNarrow_written d.negative d.written_digits (.inr d.whole_ne_nil) hfits,
      ofDigitChars_digits_append, length_places, dropZeroSign]
  rw [chars, List.append_assoc, List.append_assoc]
  cases hnegative : d.negative with
  | true =>
      rw [hnegative] at hread
      exact hread
  | false =>
      obtain ⟨c, cs, hcs⟩ := List.exists_cons_of_ne_nil d.whole_ne_nil
      have hc := d.written_digits.whole c (hcs ▸ List.mem_cons_self)
      rw [hnegative, hcs] at hread
      rw [hcs]
      exact (readPlain_digit hc).trans hread

theorem not_mark_of_mem_chars {c : Char} (hc : c ∈ d.chars) : (c = 'e' || c = 'E') = false := by
  have hdigit : ∀ c : Char, c.isDigit = true → (c = 'e' || c = 'E') = false := by
    intro c hc
    rw [Bool.or_eq_false_iff, decide_eq_false_iff_not, decide_eq_false_iff_not]
    constructor
    all_goals
      rintro rfl
      cases hc
  simp only [chars, List.mem_append] at hc
  rcases hc with ((hc | hc) | hc) | hc
  · split at hc
    · obtain rfl := List.mem_singleton.mp hc
      decide
    · cases hc
  · exact hdigit c (d.written_digits.whole c hc)
  · split at hc
    · cases hc
    · obtain rfl := List.mem_singleton.mp hc
      decide
  · exact hdigit c (d.written_digits.places c hc)

/-- Of what is written, nothing but the sign of a zero is lost. -/
theorem read_toText_eq : read d.toText = .ok d.dropZeroSign := by
  have hmark : ∀ c ∈ d.chars, (!(c = 'e' || c = 'E')) = true :=
    fun c hc => by rw [d.not_mark_of_mem_chars hc]; rfl
  have htake : (d.toText.toList.takeWhile fun c => !(c = 'e' || c = 'E')) = d.chars := by
    rw [toText, String.toList_ofList, List.takeWhile_eq_self_iff.mpr hmark]
  have hdrop : (d.toText.toList.dropWhile fun c => !(c = 'e' || c = 'E')) = [] := by
    rw [toText, String.toList_ofList, List.dropWhile_eq_nil_iff.mpr hmark]
  simp only [read, htake, hdrop, readPlain_chars d]

theorem read_toText (h : d.negative = true → 0 < d.mantissa) : read d.toText = .ok d := by
  rw [read_toText_eq, dropZeroSign_eq_self d h]

end Disburse.Decimal
