import Disburse.Text.Base64

namespace Disburse.Text.Base64

theorem sextet?_sextetChar : ∀ n < 64, sextet? (sextetChar n) = some n := by
  decide

theorem sextet?_padding : sextet? '=' = none := by
  decide

theorem ne_padding {c : Char} {n : Nat} (h : sextet? c = some n) : c ≠ '=' := by
  rintro rfl
  cases sextet?_padding.symm.trans h

theorem ofNat_eq {b : UInt8} {n : Nat} (h : n = b.toNat) : UInt8.ofNat n = b := by
  rw [h, UInt8.ofNat_toNat]

theorem decodeChars?_group {a b c d : Nat} {p q r s : Char} {rest : List Char}
    (hp : sextet? p = some a) (hq : sextet? q = some b) (hr : sextet? r = some c)
    (hs : sextet? s = some d) :
    decodeChars? (p :: q :: r :: s :: rest) = (decodeChars? rest).map fun bytes =>
      UInt8.ofNat (a * 4 + b / 16) :: UInt8.ofNat (b % 16 * 16 + c / 4) ::
        UInt8.ofNat (c % 4 * 64 + d) :: bytes := by
  cases rest with
  | nil => simp [decodeChars?, decodeLast?, hp, hq, hr, hs, ne_padding hr, ne_padding hs]
  | cons e rest =>
      cases h : decodeChars? (e :: rest) <;> simp [decodeChars?, hp, hq, hr, hs, h]

theorem decodeChars?_two {a b c : Nat} {p q r : Char} (hp : sextet? p = some a)
    (hq : sextet? q = some b) (hr : sextet? r = some c) (h : c % 4 = 0) :
    decodeChars? [p, q, r, '='] =
      some [UInt8.ofNat (a * 4 + b / 16), UInt8.ofNat (b % 16 * 16 + c / 4)] := by
  simp [decodeChars?, decodeLast?, hp, hq, hr, ne_padding hr, h]

theorem decodeChars?_one {a b : Nat} {p q : Char} (hp : sextet? p = some a)
    (hq : sextet? q = some b) (h : b % 16 = 0) :
    decodeChars? [p, q, '=', '='] = some [UInt8.ofNat (a * 4 + b / 16)] := by
  simp [decodeChars?, decodeLast?, hp, hq, h]

theorem decodeChars?_encodeChars (bytes : List UInt8) :
    decodeChars? (encodeChars bytes) = some bytes := by
  have hsextet : ∀ n, n < 64 → sextet? (sextetChar n) = some n := sextet?_sextetChar
  induction bytes using encodeChars.induct with
  | case1 a b c rest ih =>
      have ha := a.toNat_lt
      have hb := b.toNat_lt
      have hc := c.toNat_lt
      rw [encodeChars, decodeChars?_group (hsextet _ (by omega)) (hsextet _ (by omega))
        (hsextet _ (by omega)) (hsextet _ (by omega)), ih, Option.map_some,
        ofNat_eq (b := a) (by omega), ofNat_eq (b := b) (by omega), ofNat_eq (b := c) (by omega)]
  | case2 a b =>
      have ha := a.toNat_lt
      have hb := b.toNat_lt
      rw [encodeChars, decodeChars?_two (hsextet _ (by omega)) (hsextet _ (by omega))
        (hsextet _ (by omega)) (by omega), ofNat_eq (b := a) (by omega),
        ofNat_eq (b := b) (by omega)]
  | case3 a =>
      have ha := a.toNat_lt
      rw [encodeChars, decodeChars?_one (hsextet _ (by omega)) (hsextet _ (by omega)) (by omega),
        ofNat_eq (b := a) (by omega)]
  | case4 => rfl

@[simp] theorem decode?_encode (bytes : List UInt8) : decode? (encode bytes) = some bytes := by
  rw [decode?, encode, String.toList_ofList, decodeChars?_encodeChars]

end Disburse.Text.Base64
