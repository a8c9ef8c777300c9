import Disburse.Ledger.Signer
import Disburse.Proofs.Decimal.Reader
import Disburse.Proofs.Json.Record
import Disburse.Proofs.Text.Base64
import Disburse.Proofs.Text.Hex
import Disburse.Proofs.Text.Percent

namespace Disburse

open Disburse.Json

namespace Ledger

open Disburse.Text

/-- Amounts that are read back, which leaves out a zero with a sign. -/
def Payment.IsExact (p : Payment) : Prop :=
  p.amount.negative = true → 0 < p.amount.mantissa

theorem Payment.isExact_of_isPositive {p : Payment} (h : p.amount.IsPositive) : p.IsExact := by
  intro _
  exact h.2

/-- The payment that is read back: a zero has lost its sign. -/
def Payment.dropZeroSign (p : Payment) : Payment :=
  { p with amount := p.amount.dropZeroSign }

theorem Payment.IsExact.dropZeroSign {p : Payment} (h : p.IsExact) : p.dropZeroSign = p := by
  rw [Payment.dropZeroSign, Decimal.dropZeroSign_eq_self p.amount h]

theorem Payment.ofJson?_toJson (p : Payment) : Payment.ofJson? p.toJson = some p.dropZeroSign := by
  have hamount : Decimal.ofJson? (.str p.amount.toText) = some p.amount.dropZeroSign := by
    simp [Decimal.ofJson?, text?, Decimal.read_toText_eq, Except.toOption]
  rw [Payment.ofJson?, toJson, fields?_obj]
  · simp [required, text?, hamount, List.lookup_cons, Payment.dropZeroSign]
  · rfl
  · decide

namespace Transfer

def members (t : Transfer) : List (String × Json) :=
  [("source_account", .str t.source), ("sequence", ofInt64 t.sequence), ("fee", ofUInt32 t.fee),
    ("max_time", ofInt64 t.maxTime), ("network_passphrase", .str t.passphrase),
    ("memo", .str t.memo), ("operation", t.payment.toJson)]

/-- The transfer that is read back: an amount of zero has lost its sign. -/
def dropZeroSign (t : Transfer) : Transfer :=
  { t with payment := t.payment.dropZeroSign }

theorem dropZeroSign_eq_self {t : Transfer} (h : t.payment.IsExact) : t.dropZeroSign = t := by
  rw [dropZeroSign, h.dropZeroSign]

theorem ofJson?_toJson (t : Transfer) : Transfer.ofJson? t.toJson = some t.dropZeroSign := by
  have hfields : fields? memberNames memberNames.length t.toJson = some t.members :=
    fields?_obj rfl (by decide)
  have hsource : required t.members "source_account" text? = some t.source :=
    required_of_lookup (v := .str t.source) (by simp [members])
  have hsequence : required t.members "sequence" int64? = some t.sequence :=
    (required_of_lookup (by simp [members, List.lookup_cons])).trans (int64?_ofInt64 t.sequence)
  have hfee : required t.members "fee" uint32? = some t.fee :=
    (required_of_lookup (by simp [members, List.lookup_cons])).trans (uint32?_ofUInt32 t.fee)
  have hmaxTime : required t.members "max_time" int64? = some t.maxTime :=
    (required_of_lookup (by simp [members, List.lookup_cons])).trans (int64?_ofInt64 t.maxTime)
  have hpassphrase : required t.members "network_passphrase" text? = some t.passphrase :=
    required_of_lookup (v := .str t.passphrase) (by simp [members, List.lookup_cons])
  have hmemo : required t.members "memo" text? = some t.memo :=
    required_of_lookup (v := .str t.memo) (by simp [members, List.lookup_cons])
  have hpayment : required t.members "operation" Payment.ofJson? = some t.payment.dropZeroSign :=
    (required_of_lookup (by simp [members, List.lookup_cons])).trans (Payment.ofJson?_toJson _)
  simp [Transfer.ofJson?, hfields, hsource, hsequence, hfee, hmaxTime, hpassphrase, hmemo, hpayment,
    dropZeroSign]

theorem isPlain_toJson (t : Transfer) : t.toJson.IsPlain := by
  refine ⟨trivial, isPlain_ofInt64 _, isPlain_ofUInt32 _, isPlain_ofInt64 _, trivial, trivial,
    ⟨trivial, trivial, trivial, trivial⟩, trivial⟩

/-- The transfer that a byte string denotes. -/
def ofPayload? (bytes : List UInt8) : Option Transfer := do
  ofJson? (← parse? (← Utf8.decode? bytes))

theorem ofPayload?_payload_eq (t : Transfer) : ofPayload? t.payload = some t.dropZeroSign := by
  simp [ofPayload?, payload, parse?_render t.isPlain_toJson, ofJson?_toJson]

theorem ofPayload?_payload {t : Transfer} (h : t.payment.IsExact) :
    ofPayload? t.payload = some t := by
  rw [ofPayload?_payload_eq, dropZeroSign_eq_self h]

theorem payload_injective {t t' : Transfer} (h : t.payment.IsExact) (h' : t'.payment.IsExact)
    (heq : t'.payload = t.payload) : t' = t := by
  have hread := ofPayload?_payload h'
  rw [heq, ofPayload?_payload h] at hread
  exact (Option.some.inj hread).symm

theorem decode?_encode (t : Transfer) : decode? t.encode = some t.dropZeroSign := by
  have hsplit : decode? t.encode = (Base64.decode? t.encode).bind ofPayload? := by
    cases hbytes : Base64.decode? t.encode <;> simp [decode?, ofPayload?, hbytes]
  rw [hsplit, encode, Base64.decode?_encode, Option.bind_some, ofPayload?_payload_eq]

end Transfer

namespace Envelope

/-- The object inside an envelope. -/
def content? (e : Envelope) : Option Json := do
  parse? (← Utf8.decode? (← Base64.decode? e.text))

theorem content?_encode (key signature form : String) :
    (Envelope.mk (Base64.encode (Utf8.encode (Json.obj [("public_key", .str key),
      ("signature", .str signature), ("tx", .str form)]).render))).content? =
        some (.obj [("public_key", .str key), ("signature", .str signature),
          ("tx", .str form)]) := by
  have hparse := parse?_render (v := .obj [("public_key", .str key),
    ("signature", .str signature), ("tx", .str form)]) ⟨trivial, trivial, trivial, trivial⟩
  simp [content?, hparse]

theorem transfer?_of_content? {e : Envelope} {v : Json} {form : String} (h : e.content? = some v)
    (hform : v.member? "tx" = some (.str form)) : e.transfer? = Transfer.decode? form := by
  simp only [content?, Option.bind_eq_bind, Option.bind_eq_some_iff] at h
  obtain ⟨bytes, hbytes, text, htext, hv⟩ := h
  simp [transfer?, hbytes, htext, hv, hform]

end Envelope

/-- What was signed is what is sent, but for the sign of a zero. -/
theorem Transfer.transfer?_sign_eq (t : Transfer) (signer : Signer) :
    (t.sign signer).transfer? = some t.dropZeroSign := by
  have hcontent := Envelope.content?_encode signer.publicKey
    (Hex.encode (Ed25519.sign signer.seed t.payload)) t.encode
  rw [Transfer.sign, Envelope.transfer?_of_content? hcontent rfl, Transfer.decode?_encode]

theorem Transfer.transfer?_sign {t : Transfer} (signer : Signer) (h : t.payment.IsExact) :
    (t.sign signer).transfer? = some t := by
  rw [transfer?_sign_eq, dropZeroSign_eq_self h]

/-- A signed envelope opens to the key, the signature and the canonical form of its transfer. The
signature is over the bytes behind the canonical form, which denote this transfer and no other. -/
theorem envelope_opens {t : Transfer} (signer : Signer) (hamount : t.payment.amount.IsPositive) :
    ∃ signature bytes,
      (t.sign signer).content? = some (.obj [
        ("public_key", .str signer.publicKey),
        ("signature", .str signature),
        ("tx", .str t.encode)]) ∧
      Base64.decode? t.encode = some bytes ∧
      Transfer.ofPayload? bytes = some t ∧
      signature = Hex.encode (Ed25519.sign signer.seed bytes) ∧
      Hex.decode signature = .ok (Ed25519.sign signer.seed bytes) ∧
      Hex.decode signer.publicKey = .ok (Ed25519.publicKey signer.seed) ∧
      bytes = t.payload ∧
      ∀ t' : Transfer, t'.payment.amount.IsPositive → t'.payload = t.payload → t' = t := by
  have hexact := Payment.isExact_of_isPositive hamount
  refine ⟨_, t.payload, Envelope.content?_encode .., Base64.decode?_encode _,
    Transfer.ofPayload?_payload hexact, rfl, Hex.decode_encode _, Hex.decode_encode _, rfl, ?_⟩
  intro t' hamount' hpayload
  exact Transfer.payload_injective hexact (Payment.isExact_of_isPositive hamount') hpayload

/-- A transfer whose names need escapes, and whose amount has places of no worth. -/
def sampleTransfer : Transfer where
  source := "G\"A\\\n\x01"
  sequence := -9223372036854775808
  fee := 4294967295
  maxTime := 9223372036854775807
  passphrase := "Test SDF Network ; September 2015"
  memo := "λ😀\x7f"
  payment := ⟨"GDEST", ⟨false, 1200, 2, by decide, by decide⟩, ""⟩

/-- A signer with a seed of equal bytes. -/
def sampleSigner : Signer :=
  ⟨List.replicate 32 7, by decide⟩

theorem envelope_of_sampleTransfer :
    sampleTransfer.payment.amount.IsPositive ∧
      ∃ signature bytes,
        (sampleTransfer.sign sampleSigner).content? = some (.obj [
          ("public_key", .str sampleSigner.publicKey),
          ("signature", .str signature),
          ("tx", .str sampleTransfer.encode)]) ∧
        Base64.decode? sampleTransfer.encode = some bytes ∧
        Transfer.ofPayload? bytes = some sampleTransfer ∧
        Hex.decode signature = .ok (Ed25519.sign sampleSigner.seed bytes) := by
  have hamount : sampleTransfer.payment.amount.IsPositive := by decide
  obtain ⟨signature, bytes, hcontent, hbytes, hread, -, hsignature, -⟩ :=
    envelope_opens sampleSigner hamount
  exact ⟨hamount, signature, bytes, hcontent, hbytes, hread, hsignature⟩

end Ledger

end Disburse
