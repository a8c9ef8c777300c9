import Disburse.Text.Hex

namespace Disburse.Text.Hex

theorem value?_digit : ∀ n < 16, value? (digit n) = some n := by
  decide

theorem digit_lt_digit_iff : ∀ m < 16, ∀ n < 16, (digit m < digit n ↔ m < n) := by
  decide

@[simp]
theorem length_fixed (width n : Nat) : (fixed width n).length = width := by
  induction width generalizing n with
  | zero => rfl
  | succ width ih => simp [fixed, ih]

theorem exists_digit_of_mem {width n : Nat} {c : Char} (h : c ∈ fixed width n) :
    ∃ k < 16, c = digit k := by
  induction width generalizing n with
  | zero => cases h
  | succ width ih =>
      rcases List.mem_append.mp h with h | h
      · exact ih h
      · exact ⟨n % 16, Nat.mod_lt _ (by decide), List.mem_singleton.mp h⟩

theorem number?_append_singleton (cs : List Char) (c : Char) :
    number? (cs ++ [c]) =
      (number? cs).bind fun n => (value? c).map fun d => 16 * n + d := by
  cases h : number? cs with
  | none =>
      rw [number?] at h
      simp [number?, List.foldlM_append, h]
  | some n =>
      rw [number?] at h
      cases hc : value? c <;> simp [number?, List.foldlM_append, h, hc]

theorem lt_pow_div {width n : Nat} (h : n < Nat.pow 16 (width + 1)) :
    n / 16 < Nat.pow 16 width := by
  change n < Nat.pow 16 width * 16 at h
  omega

theorem number?_fixed {width n : Nat} (h : n < Nat.pow 16 width) :
    number? (fixed width n) = some n := by
  induction width generalizing n with
  | zero =>
      obtain rfl := Nat.lt_one_iff.mp h
      rfl
  | succ width ih =>
      rw [fixed, number?_append_singleton, ih (lt_pow_div h), Option.bind_some,
        value?_digit _ (Nat.mod_lt _ (by decide)), Option.map_some, Nat.div_add_mod]

theorem fixed_inj {width m n : Nat} (hm : m < Nat.pow 16 width) (hn : n < Nat.pow 16 width)
    (h : fixed width m = fixed width n) : m = n :=
  Option.some.inj ((number?_fixed hm).symm.trans ((congrArg number? h).trans (number?_fixed hn)))

theorem append_lt_append_iff {xs ys as bs : List Char} (h : xs.length = ys.length) :
    xs ++ as < ys ++ bs ↔ xs < ys ∨ xs = ys ∧ as < bs := by
  induction xs generalizing ys with
  | nil =>
      obtain rfl := List.eq_nil_of_length_eq_zero h.symm
      simp
  | cons x xs ih =>
      cases ys with
      | nil => cases h
      | cons y ys =>
          rw [List.cons_append, List.cons_append, List.cons_lt_cons_iff, List.cons_lt_cons_iff,
            ih (Nat.succ.inj h), List.cons.injEq]
          grind

theorem fixed_lt_fixed_iff {width m n : Nat} (hm : m < Nat.pow 16 width)
    (hn : n < Nat.pow 16 width) : fixed width m < fixed width n ↔ m < n := by
  induction width generalizing m n with
  | zero =>
      obtain rfl := Nat.lt_one_iff.mp hm
      obtain rfl := Nat.lt_one_iff.mp hn
      simp
  | succ width ih =>
      have hm' := lt_pow_div hm
      have hn' := lt_pow_div hn
      have hlast : [digit (m % 16)] < [digit (n % 16)] ↔ m % 16 < n % 16 := by
        rw [List.cons_lt_cons_iff,
          digit_lt_digit_iff _ (Nat.mod_lt _ (by decide)) _ (Nat.mod_lt _ (by decide))]
        simp
      have hinit : fixed width (m / 16) = fixed width (n / 16) ↔ m / 16 = n / 16 :=
        ⟨fixed_inj hm' hn', fun h => by rw [h]⟩
      rw [fixed, fixed, append_lt_append_iff (by simp), ih hm' hn', hinit, hlast]
      omega

theorem toUTF8_ofList (cs : List Char) :
    (String.ofList cs).toUTF8.data.toList = cs.flatMap String.utf8EncodeChar := by
  rw [String.toUTF8, String.toByteArray_ofList, List.utf8Encode, List.toList_data_toByteArray]

theorem utf8EncodeChar_digit : ∀ n < 16, ∃ b : UInt8,
    String.utf8EncodeChar (digit n) = [b] ∧ value? (Char.ofNat b.toNat) = some n := by
  intro n hn
  refine ⟨UInt8.ofNat (digit n).toNat, ?_, ?_⟩
  all_goals
    revert n
    decide

theorem utf8Encode_ofByte (b : UInt8) : ∃ hi lo : UInt8,
    (ofByte b).flatMap String.utf8EncodeChar = [hi, lo] ∧
      value? (Char.ofNat hi.toNat) = some (b.toNat / 16) ∧
      value? (Char.ofNat lo.toNat) = some (b.toNat % 16) := by
  have hb := b.toNat_lt
  obtain ⟨hi, hhi, hhigh⟩ := utf8EncodeChar_digit (b.toNat / 16) (by omega)
  obtain ⟨lo, hlo, hlow⟩ := utf8EncodeChar_digit (b.toNat % 16) (by omega)
  exact ⟨hi, lo, by simp [ofByte, hhi, hlo], hhigh, hlow⟩

theorem decodePairs_flatMap (bytes : List UInt8) (position : Nat) :
    decodePairs position ((bytes.flatMap ofByte).flatMap String.utf8EncodeChar) = .ok bytes ∧
      ((bytes.flatMap ofByte).flatMap String.utf8EncodeChar).length % 2 = 0 := by
  induction bytes generalizing position with
  | nil => exact ⟨rfl, rfl⟩
  | cons b bytes ih =>
      obtain ⟨hi, lo, htext, hhigh, hlow⟩ := utf8Encode_ofByte b
      obtain ⟨hread, heven⟩ := ih (position + 2)
      have hbyte : UInt8.ofNat (16 * (b.toNat / 16) + b.toNat % 16) = b := by
        rw [Nat.div_add_mod, UInt8.ofNat_toNat]
      rw [List.flatMap_cons, List.flatMap_append, htext]
      constructor
      · simp [decodePairs, hhigh, hlow, hread, Except.map, hbyte]
      · simp only [List.length_append, List.length_cons, List.length_nil]
        omega

@[simp] theorem decode_encode (bytes : List UInt8) : decode (encode bytes) = .ok bytes := by
  obtain ⟨hread, heven⟩ := decodePairs_flatMap bytes 0
  simp only [decode, encode, toUTF8_ofList]
  rw [if_neg (by omega), hread]

end Disburse.Text.Hex
