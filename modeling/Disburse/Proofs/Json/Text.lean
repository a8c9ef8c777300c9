import Disburse.Json.Reader
import Disburse.Json.Writer
import Disburse.Proofs.Text.Hex
import Disburse.Proofs.Text.Numeral

namespace Disburse.Json

open Disburse.Text

/-- What may stand behind a value that was written: the end, or what separates or closes. -/
def Closes (rest : List Char) : Prop :=
  ∀ c ∈ rest.head?, c = ',' ∨ c = ']' ∨ c = '\x7d'

theorem closes_nil : Closes [] := by
  simp [Closes]

theorem closes_cons {c : Char} {rest : List Char} (h : c = ',' ∨ c = ']' ∨ c = '\x7d') :
    Closes (c :: rest) := by
  simpa [Closes] using h

variable {rest : List Char}

theorem readDigits_digits (n : Nat) (hrest : Closes rest) :
    readDigits (Numeral.digits n ++ rest) = some (Numeral.digits n, rest) := by
  have hall : ∀ c ∈ Numeral.digits n, c.isDigit = true :=
    fun _ hc => Numeral.isDigit_of_mem_digits hc
  have hnone : rest.takeWhile Char.isDigit = [] ∧ rest.dropWhile Char.isDigit = rest := by
    cases rest with
    | nil => exact ⟨rfl, rfl⟩
    | cons c rest =>
        have hc : c.isDigit = false := by
          rcases hrest c rfl with rfl | rfl | rfl <;> decide
        simp [hc]
  rw [readDigits, List.takeWhile_append_of_pos hall, List.dropWhile_append_of_pos hall, hnone.1,
    hnone.2, List.append_nil]
  obtain ⟨c, cs, hcs, -⟩ := Numeral.exists_digits_eq_cons n
  rw [hcs]

theorem readFraction_of_closes (hrest : Closes rest) : readFraction rest = some ([], rest) := by
  cases rest with
  | nil => rfl
  | cons c rest => obtain rfl | rfl | rfl := hrest c rfl <;> rfl

theorem readExponent_of_closes (hrest : Closes rest) :
    readExponent rest = some (([], 0), rest) := by
  cases rest with
  | nil => rfl
  | cons c rest => obtain rfl | rfl | rfl := hrest c rfl <;> rfl

theorem isDouble_digits {n : Nat} (hn : n < doubleLimit) :
    isDouble (Numeral.digits n) 0 = true := by
  show (decide (Nat.ofDigitChars 10 (Numeral.digits n) 0 = 0) ||
    true && decide (Nat.ofDigitChars 10 (Numeral.digits n) 0 * 1 < doubleLimit)) = true
  simp [Numeral.ofDigitChars_digits, hn]

theorem readUnsigned_digits {n : Nat} {negative : Bool} (hn : n < doubleLimit)
    (hzero : negative = true → 0 < n) (hrest : Closes rest) :
    readUnsigned negative (Numeral.digits n ++ rest) =
      some (.int (if negative then -n else n), rest) := by
  have hlead : (decide ((Numeral.digits n).length > 1) &&
      (Numeral.digits n).head? == some '0') = false := by
    rcases Nat.eq_zero_or_pos n with rfl | hpos
    · rfl
    · simp [Numeral.head?_digits_ne hpos]
  have hsign : (negative && n == 0) = false := by
    cases negative with
    | false => rfl
    | true => simpa using Nat.ne_of_gt (hzero rfl)
  simp only [readUnsigned, readDigits_digits n hrest, readFraction_of_closes hrest,
    readExponent_of_closes hrest, Option.bind_eq_bind, Option.bind_some, hlead]
  simp [Numeral.ofDigitChars_digits, isDouble_digits hn, hsign]

theorem readNumber_of_ne {cs : List Char} (h : cs.head? ≠ some '-') :
    readNumber cs = readUnsigned false cs := by
  unfold readNumber
  split
  · exact absurd rfl h
  · rfl

theorem readNumber_signed {n : Int} (hn : n.natAbs < doubleLimit) (hrest : Closes rest) :
    readNumber (Numeral.signed n ++ rest) = some (.int n, rest) := by
  cases n with
  | ofNat n =>
      have hhead : (Numeral.digits n ++ rest).head? ≠ some '-' := by
        obtain ⟨c, cs, hcs, hc⟩ := Numeral.exists_digits_eq_cons n
        rw [hcs]
        rintro ⟨⟩
        cases hc
      have hlimit : n < doubleLimit := hn
      rw [Numeral.signed, readNumber_of_ne hhead, readUnsigned_digits hlimit (by simp) hrest]
      rfl
  | negSucc n =>
      have hlimit : n + 1 < doubleLimit := hn
      rw [Numeral.signed, List.cons_append, readNumber,
        readUnsigned_digits hlimit (fun _ => Nat.succ_pos n) hrest]
      rfl

theorem escape_cases (c : Char) :
    (∃ e, escape c = ['\\', e] ∧ e ≠ 'u' ∧ unescape? e = some c) ∨
    (c.toNat < 0x20 ∧ escape c = '\\' :: 'u' :: Hex.fixed 4 c.toNat) ∨
    (escape c = [c] ∧ ¬ c.toNat < 0x20 ∧ c ≠ '"' ∧ c ≠ '\\') := by
  by_cases hshort : c ∈ ['"', '\\', '\n', '\r', '\t', '\x08', '\x0c']
  · left
    simp only [List.mem_cons, List.not_mem_nil, or_false] at hshort
    rcases hshort with rfl | rfl | rfl | rfl | rfl | rfl | rfl
    all_goals exact ⟨_, rfl, by decide, by decide⟩
  · simp only [List.mem_cons, List.not_mem_nil, or_false, not_or] at hshort
    right
    by_cases hcontrol : c.toNat < 0x20
    · exact .inl ⟨hcontrol, by simp [escape, hshort, hcontrol]⟩
    · exact .inr ⟨by simp [escape, hshort, hcontrol], hcontrol, hshort.1, hshort.2.1⟩

theorem readPieces_escape (c : Char) (cs : List Char) :
    readPieces (escape c ++ cs) =
      (readPieces cs).map fun (pieces, rest) => (.char c :: pieces, rest) := by
  obtain ⟨e, hescape, hu, hc⟩ | ⟨hcontrol, hescape⟩ | ⟨hescape, hcontrol, hquote, hslash⟩ :=
    escape_cases c
  · rw [hescape]
    cases h : readPieces cs <;> simp [readPieces, hc, h, hu]
  · obtain ⟨i, j, k, l, hfixed⟩ : ∃ i j k l, Hex.fixed 4 c.toNat = [i, j, k, l] :=
      ⟨_, _, _, _, rfl⟩
    have hnumber : Hex.number? (Hex.fixed 4 c.toNat) = some c.toNat :=
      Hex.number?_fixed (Nat.lt_trans hcontrol (by decide))
    have hunit : Piece.ofUnit c.toNat = .char c := by
      rw [Piece.ofUnit, if_neg (by omega), Char.ofNat_toNat]
    rw [hescape, hfixed]
    rw [hfixed] at hnumber
    cases h : readPieces cs <;> simp [readPieces, hnumber, hunit, h]
  · rw [hescape]
    cases h : readPieces cs <;> simp [readPieces, hcontrol, h, hslash]

theorem readPieces_quote (cs : List Char) :
    readPieces (cs.flatMap escape ++ '"' :: rest) = some (cs.map Piece.char, rest) := by
  induction cs with
  | nil => simp [readPieces]
  | cons c cs ih => rw [List.flatMap_cons, List.append_assoc, readPieces_escape, ih]; rfl

theorem joinPieces_char (cs : List Char) : joinPieces (cs.map Piece.char) = some cs := by
  induction cs with
  | nil => rfl
  | cons c cs ih => simp [joinPieces, ih]

theorem readString_quote (s : String) :
    readString (s.toList.flatMap escape ++ '"' :: rest) = some (some s, rest) := by
  simp [readString, readPieces_quote, joinPieces_char]

mutual

/-- Values that are read back as they were written. -/
def IsPlain : Json → Prop
  | .null => True
  | .bool _ => True
  | .int n => n.natAbs < doubleLimit
  | .real _ => False
  | .str _ => True
  | .arr items => ArePlain items
  | .obj members => HavePlain members
  | .garbled => False

def ArePlain : List Json → Prop
  | [] => True
  | v :: vs => IsPlain v ∧ ArePlain vs

def HavePlain : List (String × Json) → Prop
  | [] => True
  | (_, v) :: ms => IsPlain v ∧ HavePlain ms

end

theorem skipSpace_cons {c : Char} (h : isSpace c = false) (cs : List Char) :
    skipSpace (c :: cs) = c :: cs := by
  simp [skipSpace, h]

theorem isSpace_of_number {c : Char} (h : c = '-' ∨ c.isDigit = true) : isSpace c = false := by
  simp only [isSpace, Bool.or_eq_false_iff, decide_eq_false_iff_not]
  refine ⟨⟨⟨?_, ?_⟩, ?_⟩, ?_⟩
  all_goals
    rintro rfl
    exact absurd h (by decide)

theorem exists_signed_eq_cons (n : Int) :
    ∃ c cs, Numeral.signed n = c :: cs ∧ (c = '-' ∨ c.isDigit = true) := by
  cases n with
  | ofNat n =>
      obtain ⟨c, cs, hcs, hc⟩ := Numeral.exists_digits_eq_cons n
      exact ⟨c, cs, hcs, .inr hc⟩
  | negSucc n => exact ⟨'-', _, rfl, .inl rfl⟩

theorem exists_chars_eq_cons {v : Json} (h : v.IsPlain) :
    ∃ c cs, v.chars = c :: cs ∧ isSpace c = false ∧ c ≠ ']' := by
  cases v with
  | null => exact ⟨_, _, rfl, by decide, by decide⟩
  | bool b => cases b <;> exact ⟨_, _, rfl, by decide, by decide⟩
  | int n =>
      obtain ⟨c, cs, hcs, hc⟩ := exists_signed_eq_cons n
      refine ⟨c, cs, hcs, isSpace_of_number hc, ?_⟩
      rintro rfl
      exact absurd hc (by decide)
  | real literal => exact h.elim
  | str s => exact ⟨_, _, rfl, by decide, by decide⟩
  | arr items => cases items <;> exact ⟨_, _, rfl, by decide, by decide⟩
  | obj members => cases members <;> exact ⟨_, _, rfl, by decide, by decide⟩
  | garbled => exact h.elim

section Steps

variable {fuel : Nat} {cs cs' : List Char} {v : Json} {vs : List Json} {name : String}
  {ms : List (String × Json)}

theorem readValue_quote (s : String) :
    readValue (fuel + 1) (quote s ++ rest) = some (.str s, rest) := by
  rw [quote, List.cons_append, List.append_assoc, readValue, skipSpace_cons (by decide)]
  simp [readString_quote]

theorem readValue_number {c : Char} (h : c = '-' ∨ c.isDigit = true) :
    readValue (fuel + 1) (c :: cs) = readNumber (c :: cs) := by
  rw [readValue, skipSpace_cons (isSpace_of_number h)]
  split
  all_goals rename_i heq
  all_goals cases heq
  all_goals first
    | exact if_pos (by simpa using h)
    | exact absurd h (by decide)

theorem readValue_bracket {c : Char} (hspace : isSpace c = false) (hclose : c ≠ ']')
    (hv : readValue fuel (c :: cs) = some (v, cs')) (hvs : readItems fuel cs' = some (vs, rest)) :
    readValue (fuel + 1) ('[' :: c :: cs) = some (.arr (v :: vs), rest) := by
  rw [readValue, skipSpace_cons (by decide)]
  simp [skipSpace_cons hspace, hclose, hv, hvs]

theorem readItems_comma (hv : readValue fuel cs = some (v, cs'))
    (hvs : readItems fuel cs' = some (vs, rest)) :
    readItems (fuel + 1) (',' :: cs) = some (v :: vs, rest) := by
  rw [readItems, skipSpace_cons (by decide)]
  simp [hv, hvs]

theorem readMember_quote (name : String) (hv : readValue fuel cs = some (v, rest)) :
    readMember (fuel + 1) (quote name ++ ':' :: cs) = some (some (name, v), rest) := by
  rw [quote, List.cons_append, List.append_assoc, readMember, skipSpace_cons (by decide)]
  simp [readString_quote, skipSpace_cons (c := ':') (by decide), hv]

theorem readMembers_comma (hm : readMember fuel cs = some (some (name, v), cs'))
    (hms : readMembers fuel cs' = some (some ms, rest)) :
    readMembers (fuel + 1) (',' :: cs) = some (some ((name, v) :: ms), rest) := by
  rw [readMembers, skipSpace_cons (by decide)]
  simp [hm, hms]

theorem readValue_brace (hm : readMember fuel ('"' :: cs) = some (some (name, v), cs'))
    (hms : readMembers fuel cs' = some (some ms, rest)) :
    readValue (fuel + 1) ('\x7b' :: '"' :: cs) = some (.obj ((name, v) :: ms), rest) := by
  rw [readValue, skipSpace_cons (by decide)]
  simp [skipSpace_cons (c := '"') (by decide), hm, hms]

end Steps

theorem closes_itemsTail (vs : List Json) (rest : List Char) : Closes (itemsTail vs ++ rest) := by
  cases vs <;> exact closes_cons (by simp)

theorem closes_membersTail (ms : List (String × Json)) (rest : List Char) :
    Closes (membersTail ms ++ rest) := by
  cases ms <;> exact closes_cons (by simp)

theorem length_quote (s : String) : 2 ≤ (quote s).length := by
  simp [quote]

mutual

theorem readValue_chars (fuel : Nat) {rest : List Char} (hrest : Closes rest) :
    ∀ v : Json, v.IsPlain → v.chars.length < fuel + 1 →
      readValue (fuel + 1) (v.chars ++ rest) = some (v, rest)
  | .null, _, _ => rfl
  | .bool true, _, _ => rfl
  | .bool false, _, _ => rfl
  | .int n, hn, _ => by
      obtain ⟨c, cs, hcs, hc⟩ := exists_signed_eq_cons n
      rw [chars, hcs, List.cons_append, readValue_number hc, ← List.cons_append, ← hcs,
        readNumber_signed hn hrest]
  | .str s, _, _ => readValue_quote s
  | .arr [], _, _ => rfl
  | .arr (v :: vs), h, hfuel => by
      simp only [chars, List.length_cons, List.length_append] at hfuel
      obtain ⟨fuel, rfl⟩ : ∃ n, fuel = n + 1 := ⟨fuel - 1, by omega⟩
      have hv := readValue_chars fuel (closes_itemsTail vs rest) v h.1 (by omega)
      have hvs := readItems_itemsTail fuel rest vs h.2 (by omega)
      obtain ⟨c, cs, hcs, hspace, hclose⟩ := exists_chars_eq_cons h.1
      rw [chars, List.cons_append, List.append_assoc]
      rw [hcs, List.cons_append] at hv ⊢
      exact readValue_bracket hspace hclose hv hvs
  | .obj [], _, _ => rfl
  | .obj ((name, v) :: ms), h, hfuel => by
      have hquote := length_quote name
      simp only [chars, List.length_cons, List.length_append] at hfuel
      obtain ⟨fuel, rfl⟩ : ∃ n, fuel = n + 2 := ⟨fuel - 2, by omega⟩
      have hv := readValue_chars fuel (closes_membersTail ms rest) v h.1 (by omega)
      have hms := readMembers_membersTail (fuel + 1) rest ms h.2 (by omega)
      have hm := readMember_quote name hv
      simp only [chars, List.cons_append, List.append_assoc]
      exact readValue_brace hm hms

theorem readItems_itemsTail (fuel : Nat) (rest : List Char) :
    ∀ vs : List Json, ArePlain vs → (itemsTail vs).length < fuel + 1 →
      readItems (fuel + 1) (itemsTail vs ++ rest) = some (vs, rest)
  | [], _, _ => rfl
  | v :: vs, h, hfuel => by
      simp only [itemsTail, List.length_cons, List.length_append] at hfuel
      obtain ⟨fuel, rfl⟩ : ∃ n, fuel = n + 1 := ⟨fuel - 1, by omega⟩
      have hv := readValue_chars fuel (closes_itemsTail vs rest) v h.1 (by omega)
      have hvs := readItems_itemsTail fuel rest vs h.2 (by omega)
      rw [itemsTail, List.cons_append, List.append_assoc]
      exact readItems_comma hv hvs

theorem readMembers_membersTail (fuel : Nat) (rest : List Char) :
    ∀ ms : List (String × Json), HavePlain ms → (membersTail ms).length < fuel + 1 →
      readMembers (fuel + 1) (membersTail ms ++ rest) = some (some ms, rest)
  | [], _, _ => rfl
  | (name, v) :: ms, h, hfuel => by
      have hquote := length_quote name
      simp only [membersTail, List.length_cons, List.length_append] at hfuel
      obtain ⟨fuel, rfl⟩ : ∃ n, fuel = n + 2 := ⟨fuel - 2, by omega⟩
      have hv := readValue_chars fuel (closes_membersTail ms rest) v h.1 (by omega)
      have hms := readMembers_membersTail (fuel + 1) rest ms h.2 (by omega)
      have hm := readMember_quote name hv
      simp only [membersTail, List.cons_append, List.append_assoc]
      exact readMembers_comma hm hms

end

theorem parse?_render {v : Json} (h : v.IsPlain) : parse? v.render = some v := by
  have hread : readValue (v.render.toList.length + 1) v.render.toList = some (v, []) := by
    rw [render, String.toList_ofList]
    simpa only [List.append_nil] using readValue_chars _ closes_nil v h (Nat.lt_succ_self _)
  rw [parse?, hread]
  rfl

end Disburse.Json
