import Disburse.Payout.Codec
import Disburse.Proofs.Decimal.Reader
import Disburse.Proofs.Json.Record
import Disburse.Proofs.Payout.Id
import Disburse.Proofs.Payout.Times
import Disburse.Proofs.Time.Stamp

namespace Disburse

open Disburse.Json

theorem PayoutId.ofJson?_toText (id : PayoutId) : PayoutId.ofJson? (.str id.toText) = some id := by
  simp [PayoutId.ofJson?, text?, id.read?_toText]

theorem Decimal.ofJson?_toText {d : Decimal} (h : d.IsPositive) :
    Decimal.ofJson? (.str d.toText) = some d := by
  simp [Decimal.ofJson?, text?, Decimal.read_toText d (fun _ => h.2), Except.toOption]

theorem Instant.ofJson?_toText {t : Instant} (h : t.IsOrdinary) :
    Instant.ofJson? (.str t.toText) = some t := by
  simp [Instant.ofJson?, text?, Instant.read?_toText h]

theorem Status.ofJson?_toText (s : Status) : Status.ofJson? (.str s.toText) = some s := by
  cases s <;> rfl

theorem Kind.ofJson?_toText (k : Kind) : Kind.ofJson? (.str k.toText) = some k := by
  cases k <;> rfl

namespace Payout

def members (p : Payout) : List (String × Json) :=
  let text := ofOption Json.str
  let time := ofOption fun t : Instant => .str t.toText
  [("id", .str p.id.toText), ("recipient_address", .str p.recipient),
    ("amount", .str p.amount.toText), ("asset", .str p.asset), ("status", .str p.status.toText),
    ("kind", .str p.kind.toText), ("quest_ref", text p.questRef),
    ("submission_ref", text p.submissionRef), ("submitted_hash", text p.submittedHash),
    ("transaction_ref", text p.transactionRef), ("ledger_ref", ofOption ofInt64 p.ledgerRef),
    ("failure_reason", text p.failureReason), ("retry_count", ofUInt32 p.retryCount),
    ("max_retries", ofUInt32 p.maxRetries), ("next_retry_at", time p.nextRetryAt),
    ("processed_at", time p.processedAt), ("claimed_at", time p.claimedAt),
    ("created_at", .str p.createdAt.toText), ("updated_at", .str p.updatedAt.toText)]

theorem toJson_eq (p : Payout) : p.toJson = .obj p.members := rfl

theorem ofJson?_congr {v w : Json} {fields fields' : List (String × Json)}
    (hv : fields? memberNames memberNames.length v = some fields)
    (hw : fields? memberNames memberNames.length w = some fields')
    (h : valueOf fields' = valueOf fields) : ofJson? w = ofJson? v := by
  have hread : ∀ {α : Type} (name : String) (read : Json → Option α), read .null = none →
      required fields' name read = required fields name read := by
    intro α name read hnull
    rw [required_eq hnull, required_eq hnull, h]
  have hread? : ∀ {α : Type} (name : String) (read : Json → Option α),
      optional fields' name read = optional fields name read := by
    intro α name read
    rw [optional_eq, optional_eq, h]
  rw [ofJson?, ofJson?, hv, hw, Option.bind_eq_bind, Option.bind_some, Option.bind_eq_bind,
    Option.bind_some, hread "id" PayoutId.ofJson? rfl, hread "recipient_address" text? rfl,
    hread "amount" Decimal.ofJson? rfl, hread "asset" text? rfl,
    hread "status" Status.ofJson? rfl, hread "kind" Kind.ofJson? rfl, hread? "quest_ref",
    hread? "submission_ref", hread? "submitted_hash", hread? "transaction_ref",
    hread? "ledger_ref", hread? "failure_reason", hread "retry_count" uint32? rfl,
    hread "max_retries" uint32? rfl, hread? "next_retry_at", hread? "processed_at",
    hread? "claimed_at", hread "created_at" Instant.ofJson? rfl,
    hread "updated_at" Instant.ofJson? rfl]

theorem orAbsent_text (s? : Option String) : orAbsent text? (ofOption .str s?) = some s? := by
  cases s? <;> rfl

theorem orAbsent_time {t? : Option Instant} (h : ∀ t ∈ t?, t.IsOrdinary) :
    orAbsent Instant.ofJson? (ofOption (fun t : Instant => .str t.toText) t?) = some t? := by
  cases t? with
  | none => rfl
  | some t => simp [ofOption, orAbsent, Instant.ofJson?_toText (h t rfl)]

theorem orAbsent_ledgerRef (n? : Option Int64) :
    orAbsent int64? (ofOption ofInt64 n?) = some n? :=
  orAbsent_ofOption int64?_ofInt64 rfl n?

theorem ofJson?_toJson {p : Payout} (hamount : p.amount.IsPositive)
    (htimes : ∀ t ∈ p.times, t.IsOrdinary) : ofJson? p.toJson = some p := by
  obtain ⟨hcreated, hstate⟩ := forall_times.mp htimes
  obtain ⟨hnext, hprocessed, hclaimed, hupdated⟩ := forall_stateTimes.mp hstate
  have hnames : p.members.map Prod.fst = memberNames := rfl
  have hnodup : memberNames.Nodup := by decide
  have hread : ∀ {α : Type} (name : String) (v : Json) (read : Json → Option α) (a : α),
      (name, v) ∈ p.members → read v = some a → required p.members name read = some a :=
    fun name v read a hmem hv => (required_of_mem (hnames ▸ hnodup) hmem).trans hv
  have hread? : ∀ {α : Type} (name : String) (v : Json) (read : Json → Option α) (a? : Option α),
      (name, v) ∈ p.members → orAbsent read v = some a? →
      optional p.members name read = some a? :=
    fun name v read a? hmem hv => (optional_of_mem (hnames ▸ hnodup) hmem).trans hv
  have hid := hread "id" _ _ _ (by simp [members]) (PayoutId.ofJson?_toText p.id)
  have hrecipient := hread "recipient_address" (.str p.recipient) text? _ (by simp [members]) rfl
  have hamount' := hread "amount" _ _ _ (by simp [members]) (Decimal.ofJson?_toText hamount)
  have hasset := hread "asset" (.str p.asset) text? _ (by simp [members]) rfl
  have hstatus := hread "status" _ _ _ (by simp [members]) (Status.ofJson?_toText p.status)
  have hkind := hread "kind" _ _ _ (by simp [members]) (Kind.ofJson?_toText p.kind)
  have hquest := hread? "quest_ref" _ _ _ (by simp [members]) (orAbsent_text p.questRef)
  have hsubmission :=
    hread? "submission_ref" _ _ _ (by simp [members]) (orAbsent_text p.submissionRef)
  have hhash := hread? "submitted_hash" _ _ _ (by simp [members]) (orAbsent_text p.submittedHash)
  have htransaction :=
    hread? "transaction_ref" _ _ _ (by simp [members]) (orAbsent_text p.transactionRef)
  have hledger := hread? "ledger_ref" _ _ _ (by simp [members]) (orAbsent_ledgerRef p.ledgerRef)
  have hreason := hread? "failure_reason" _ _ _ (by simp [members]) (orAbsent_text p.failureReason)
  have hcount := hread "retry_count" _ _ _ (by simp [members]) (uint32?_ofUInt32 p.retryCount)
  have hmax := hread "max_retries" _ _ _ (by simp [members]) (uint32?_ofUInt32 p.maxRetries)
  have hnext' := hread? "next_retry_at" _ _ _ (by simp [members]) (orAbsent_time hnext)
  have hprocessed' := hread? "processed_at" _ _ _ (by simp [members]) (orAbsent_time hprocessed)
  have hclaimed' := hread? "claimed_at" _ _ _ (by simp [members]) (orAbsent_time hclaimed)
  have hcreated' := hread "created_at" _ _ _ (by simp [members]) (Instant.ofJson?_toText hcreated)
  have hupdated' := hread "updated_at" _ _ _ (by simp [members]) (Instant.ofJson?_toText hupdated)
  rw [toJson_eq, ofJson?, fields?_obj hnames hnodup, Option.bind_eq_bind, Option.bind_some, hid,
    hrecipient, hamount', hasset, hstatus, hkind, hquest, hsubmission, hhash, htransaction, hledger,
    hreason, hcount, hmax, hnext', hprocessed', hclaimed', hcreated', hupdated']
  rfl

theorem isPlain_toJson (p : Payout) : p.toJson.IsPlain := by
  have htext : ∀ s? : Option String, (ofOption Json.str s?).IsPlain :=
    isPlain_ofOption fun _ => trivial
  have htime : ∀ t? : Option Instant, (ofOption (fun t : Instant => .str t.toText) t?).IsPlain :=
    isPlain_ofOption fun _ => trivial
  exact ⟨trivial, trivial, trivial, trivial, trivial, trivial, htext _, htext _, htext _, htext _,
    isPlain_ofOption isPlain_ofInt64 _, htext _, isPlain_ofUInt32 _, isPlain_ofUInt32 _, htime _,
    htime _, htime _, trivial, trivial, trivial⟩

/-- The payout that a text denotes. -/
def decode? (text : String) : Option Payout :=
  (parse? text).bind ofJson?

theorem decode?_render {p : Payout} (hamount : p.amount.IsPositive)
    (htimes : ∀ t ∈ p.times, t.IsOrdinary) : decode? p.toJson.render = some p := by
  rw [decode?, parse?_render p.isPlain_toJson, Option.bind_some, ofJson?_toJson hamount htimes]

/-- A payout is read back from its text and written as the same text again, and it is read from any
text whose object has its members in another order, lacks some that are `null`, or has others. -/
theorem decode?_of_rearranges {p : Payout} (hamount : p.amount.IsPositive)
    (htimes : ∀ t ∈ p.times, t.IsOrdinary) :
    decode? p.toJson.render = some p ∧
      (∀ q, decode? p.toJson.render = some q → q.toJson.render = p.toJson.render) ∧
      ∀ ms, Rearranges memberNames p.members ms →
        ofJson? (.obj ms) = some p ∧
          ∀ text, parse? text = some (.obj ms) → decode? text = some p := by
  have hread := decode?_render hamount htimes
  refine ⟨hread, fun q hq => ?_, fun ms hms => ?_⟩
  · rw [Option.some.inj (hread.symm.trans hq)]
  have hfields : fields? memberNames memberNames.length (.obj p.members) = some p.members :=
    fields?_obj rfl (by decide)
  obtain ⟨fields, hfields', hvalue⟩ := hms.fields? hfields
  have hobject : ofJson? (.obj ms) = some p :=
    (ofJson?_congr hfields hfields' hvalue).trans (ofJson?_toJson hamount htimes)
  refine ⟨hobject, fun text htext => ?_⟩
  rw [decode?, htext, Option.bind_some, hobject]

/-- The sample backwards, without its next retry, and with a member of another name. -/
def sampleRearranged : List (String × Json) :=
  ("note", .arr [.int 1, .null]) ::
    (sampleFailed.members.take 14 ++ sampleFailed.members.drop 15).reverse

theorem decode?_of_sampleRearranged :
    sampleFailed.amount.IsPositive ∧ (∀ t ∈ sampleFailed.times, t.IsOrdinary) ∧
      Rearranges memberNames sampleFailed.members sampleRearranged ∧
      decode? sampleFailed.toJson.render = some sampleFailed ∧
      decode? (Json.obj sampleRearranged).render = some sampleFailed := by
  have hamount : sampleFailed.amount.IsPositive := by decide
  have htimes : ∀ t ∈ sampleFailed.times, t.IsOrdinary := by
    simp only [forall_times, forall_stateTimes]
    refine ⟨⟨by decide, by decide, by decide⟩, by simp [sampleFailed], by simp [sampleFailed], ?_,
      ⟨by decide, by decide, by decide⟩⟩
    rintro t ⟨⟩
    exact ⟨by decide, by decide, by decide⟩
  have hms : Rearranges memberNames sampleFailed.members sampleRearranged := by
    have hfront : (sampleFailed.members.take 14 ++
        ("next_retry_at", .null) :: sampleFailed.members.drop 15).Perm (("next_retry_at", .null) ::
        (sampleFailed.members.take 14 ++ sampleFailed.members.drop 15)) := List.perm_middle
    exact .trans (.permute hfront) (.trans (.drop _)
      (.trans (.permute (List.reverse_perm _).symm) (.add _ _ (by decide))))
  have hplain : (Json.obj sampleRearranged).IsPlain :=
    ⟨⟨isPlain_int (by decide), trivial, trivial⟩, trivial, trivial, trivial, trivial,
      isPlain_ofUInt32 _, isPlain_ofUInt32 _, trivial, isPlain_ofInt64 _, trivial, trivial, trivial,
      trivial, trivial, trivial, trivial, trivial, trivial, trivial, trivial⟩
  obtain ⟨hread, -, hrest⟩ := decode?_of_rearranges hamount htimes
  exact ⟨hamount, htimes, hms, hread, (hrest _ hms).2 _ (parse?_render hplain)⟩

end Payout

end Disburse
