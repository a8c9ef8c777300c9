import Disburse.Payout.Id
import Disburse.Proofs.Text.Hex
import Mathlib.Data.String.Basic

namespace Disburse.PayoutId

open Disburse.Text

theorem value_injective {a b : PayoutId} (h : a.value = b.value) : a = b := by
  cases a
  cases b
  simpa using h

theorem value_lt_pow (id : PayoutId) : id.value < Nat.pow 16 32 := by
  have hlimit : limit = Nat.pow 16 32 := by decide
  exact hlimit ▸ id.value_lt

theorem ofNat_value (id : PayoutId) : ofNat id.value = id :=
  value_injective (Nat.mod_eq_of_lt id.value_lt)

theorem groups_append (ds : List Char) :
    ds.take 8 ++ ((ds.drop 8).take 4 ++ ((ds.drop 12).take 4 ++ ((ds.drop 16).take 4 ++
      ds.drop 20))) = ds := by
  have hgroup : ∀ k n, (ds.drop k).take n ++ ds.drop (k + n) = ds.drop k := by
    intro k n
    rw [← List.drop_drop, List.take_append_drop]
  rw [hgroup 16 4, hgroup 12 4, hgroup 8 4, List.take_append_drop]

theorem digits_of_chars (id : PayoutId) :
    id.chars.take 8 ++ (id.chars.drop 9).take 4 ++ (id.chars.drop 14).take 4 ++
        (id.chars.drop 19).take 4 ++ id.chars.drop 24 =
      Hex.fixed 32 id.value := by
  have hlength := Hex.length_fixed 32 id.value
  simp only [chars]
  generalize Hex.fixed 32 id.value = ds at hlength
  simpa [List.take_append, List.drop_append, List.drop_take, hlength] using groups_append ds

theorem length_chars (id : PayoutId) : id.chars.length = 36 := by
  simp [chars]

theorem marks_of_chars (id : PayoutId) : id.chars[8]? = some '-' ∧ id.chars[13]? = some '-' ∧
    id.chars[18]? = some '-' ∧ id.chars[23]? = some '-' := by
  simp [chars]

theorem ofDigits?_fixed (id : PayoutId) : ofDigits? (Hex.fixed 32 id.value) = some id := by
  rw [ofDigits?, if_pos (Hex.length_fixed ..), Hex.number?_fixed id.value_lt_pow, Option.map_some,
    ofNat_value]

theorem read?_toText (id : PayoutId) : read? id.toText = some id := by
  obtain ⟨h₁, h₂, h₃, h₄⟩ := id.marks_of_chars
  have hread : read? id.toText = ofGroups? id.chars := by
    simp [read?, toText, length_chars]
  rw [hread, ofGroups?, if_pos ⟨id.length_chars, h₁, h₂, h₃, h₄⟩, digits_of_chars,
    ofDigits?_fixed]

theorem toText_injective {a b : PayoutId} (h : a.toText = b.toText) : a = b :=
  Option.some.inj ((read?_toText a).symm.trans ((congrArg read? h).trans (read?_toText b)))

theorem mem_chars {id : PayoutId} {c : Char} (h : c ∈ id.chars) :
    c = '-' ∨ ∃ n < 16, c = Hex.digit n := by
  have hdigit : c ∈ Hex.fixed 32 id.value → ∃ n < 16, c = Hex.digit n := Hex.exists_digit_of_mem
  simp only [chars, List.mem_append, List.mem_cons] at h
  rcases h with (((h | rfl | h) | rfl | h) | rfl | h) | rfl | h
  · exact .inr (hdigit (List.mem_of_mem_take h))
  · exact .inl rfl
  · exact .inr (hdigit (List.mem_of_mem_drop (List.mem_of_mem_take h)))
  · exact .inl rfl
  · exact .inr (hdigit (List.mem_of_mem_drop (List.mem_of_mem_take h)))
  · exact .inl rfl
  · exact .inr (hdigit (List.mem_of_mem_drop (List.mem_of_mem_take h)))
  · exact .inl rfl
  · exact .inr (hdigit (List.mem_of_mem_drop h))

theorem plain_of_mem_chars {id : PayoutId} {c : Char} (h : c ∈ id.chars) :
    c ≠ '/' ∧ c ≠ '?' ∧ c ≠ '#' ∧ 0x25 ∉ String.utf8EncodeChar c := by
  rcases mem_chars h with rfl | ⟨n, hn, rfl⟩
  · decide
  · clear h
    revert n
    decide

theorem append_mark_lt_iff {xs ys as bs : List Char} (h : xs.length = ys.length) :
    xs ++ '-' :: as < ys ++ '-' :: bs ↔ xs < ys ∨ xs = ys ∧ as < bs := by
  rw [Hex.append_lt_append_iff h, List.cons_lt_cons_iff]
  simp

theorem toText_lt_toText_iff (a b : PayoutId) : a.toText < b.toText ↔ a.value < b.value := by
  rw [String.lt_iff_toList_lt, toText, toText, String.toList_ofList, String.toList_ofList,
    ← Hex.fixed_lt_fixed_iff a.value_lt_pow b.value_lt_pow]
  have ha := Hex.length_fixed 32 a.value
  have hb := Hex.length_fixed 32 b.value
  simp only [chars, List.append_assoc, List.cons_append]
  generalize Hex.fixed 32 a.value = xs at ha
  generalize Hex.fixed 32 b.value = ys at hb
  have hfirst : (xs.take 8).length = (ys.take 8).length := by simp [ha, hb]
  have hgroup : ∀ k n, ((xs.drop k).take n).length = ((ys.drop k).take n).length := by
    intro k n
    simp [ha, hb]
  rw [append_mark_lt_iff hfirst, append_mark_lt_iff (hgroup 8 4), append_mark_lt_iff (hgroup 12 4),
    append_mark_lt_iff (hgroup 16 4), ← Hex.append_lt_append_iff (hgroup 16 4),
    ← Hex.append_lt_append_iff (hgroup 12 4), ← Hex.append_lt_append_iff (hgroup 8 4),
    ← Hex.append_lt_append_iff hfirst, groups_append, groups_append]

end Disburse.PayoutId
