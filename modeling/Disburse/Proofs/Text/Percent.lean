import Disburse.Proofs.Text.Hex
import Disburse.Text.Percent

namespace Disburse.Text.Utf8

@[simp] theorem decode?_encode (s : String) : decode? (encode s) = some s := by
  have hbytes : (⟨(encode s).toArray⟩ : ByteArray) = s.toByteArray := by
    simp [encode]
  rw [decode?, hbytes, String.fromUTF8?, dif_pos s.isValidUTF8]
  rfl

end Disburse.Text.Utf8

namespace Disburse.Text.Percent

theorem decodeBytes_of_not_mem {bytes : List UInt8} (h : 0x25 ∉ bytes) :
    decodeBytes bytes = bytes := by
  fun_induction decodeBytes bytes with
  | case1 => rfl
  | case2 => simp at h
  | case3 => simp at h
  | case4 b rest hb ih =>
      rw [List.mem_cons, not_or] at h
      rw [ih h.2]

theorem decode?_of_not_mem {cs : List Char} (h : ∀ c ∈ cs, 0x25 ∉ String.utf8EncodeChar c) :
    decode? (String.ofList cs) = some (String.ofList cs) := by
  have hbytes : 0x25 ∉ Utf8.encode (String.ofList cs) := by
    rw [Utf8.encode, Hex.toUTF8_ofList, List.mem_flatMap]
    rintro ⟨c, hc, hmem⟩
    exact h c hc hmem
  rw [decode?, bytes, decodeBytes_of_not_mem hbytes, Utf8.decode?_encode]

end Disburse.Text.Percent
