import Disburse.Proofs.Store.Memory
import Disburse.Proofs.Store.Table

namespace Disburse

/-- A payout that its row holds unchanged. -/
structure Payout.IsWhole (p : Payout) : Prop where
  amount : p.amount.IsPositive
  times : ∀ t ∈ p.times, t.IsWhole

namespace Payout.IsWhole

variable {p : Payout}

theorem createdAt (h : p.IsWhole) : p.createdAt.IsWhole :=
  (forall_times.mp h.times).1

theorem nextRetryAt (h : p.IsWhole) : ∀ t ∈ p.nextRetryAt, t.IsWhole :=
  (forall_stateTimes.mp (forall_times.mp h.times).2).1

theorem updatedAt (h : p.IsWhole) : p.updatedAt.IsWhole :=
  (forall_stateTimes.mp (forall_times.mp h.times).2).2.2.2

end Payout.IsWhole

/-- A call with times in whole milliseconds and positive amounts. -/
def StoreCall.IsWhole : StoreCall → Prop
  | .create p => p.IsWhole
  | .save p => p.IsWhole
  | .saveIf p _ => p.IsWhole
  | .findDue _ now _ => now.IsWhole
  | .findStale _ before _ => before.IsWhole
  | _ => True

/-- A payout is created under a free identifier, and one that is saved is another version of one
that is there. -/
def MemoryStore.Admits (s : MemoryStore) : StoreCall → Prop
  | .create p => p.id ∉ s.rows.map Payout.id
  | .save q => ∃ row ∈ s.rows, row.SameOrigin q
  | .saveIf q _ => ∃ row ∈ s.rows, row.SameOrigin q
  | _ => True

/-- The order of times that may be absent. -/
def Instant.earlier : Option Instant → Option Instant → Bool
  | some t, some u => t.ble u
  | none, _ => true
  | some _, none => false

/-- The first payouts that pass a test, in the order of a time. -/
def Payout.batch (key : Payout → Option Instant) (test : Payout → Bool) (limit : UInt32)
    (ps : List Payout) : List Payout :=
  ((ps.filter test).mergeSort fun p q => Instant.earlier (key p) (key q)).take limit.toNat

namespace PayoutTable

variable {s : MemoryStore} {t : PayoutTable} {p q row : Payout} {ps : List Payout}
  {status : Status}

/-- The rows of a table are those of the payouts in a memory store, in the same order. -/
structure Mirrors (t : PayoutTable) (s : MemoryStore) : Prop where
  rows : t.rows = s.rows.map stored
  whole : ∀ p ∈ s.rows, p.IsWhole

theorem stored_id_eq_iff {id : PayoutId} : (stored p).id = id.toText ↔ p.id = id := by
  constructor
  · exact PayoutId.toText_injective
  · rintro rfl
    rfl

theorem stored_status_eq_iff : (stored p).status = status.toText ↔ p.status = status := by
  have hstatus : (stored p).status = p.status.toText := rfl
  rw [hstatus]
  cases p.status <;> cases status <;> decide

theorem stored_kind_eq_iff {kind : Kind} : (stored p).kind = kind.toText ↔ p.kind = kind := by
  have hkind : (stored p).kind = p.kind.toText := rfl
  rw [hkind]
  cases p.kind <;> cases kind <;> decide

theorem storedTime_le {t u : Instant} (ht : t.IsWhole) (hu : u.IsWhole) :
    (storedTime t).le (storedTime u) = t.ble u := by
  rw [Bool.eq_iff_iff, ht.ble_iff hu, storedTime, storedTime, Quantity.le, decide_eq_true_iff,
    Int64.le_iff_toInt_le, PayoutRow.toInt_ofTime, PayoutRow.toInt_ofTime]

theorem map_inMilliseconds {t? : Option Instant} (h : ∀ t ∈ t?, t.IsWhole) :
    t?.map Instant.inMilliseconds = t? := by
  cases t? with
  | none => rfl
  | some t => rw [Option.map_some, (h t rfl).inMilliseconds]

theorem denotes_of_isWhole (h : p.IsWhole) : (PayoutRow.ofPayout p).Denotes p := by
  obtain ⟨hcreated, hstate⟩ := Payout.forall_times.mp h.times
  obtain ⟨hnext, hprocessed, hclaimed, hupdated⟩ := Payout.forall_stateTimes.mp hstate
  have hsame : p.inMilliseconds = p := by
    rw [Payout.inMilliseconds, map_inMilliseconds hnext, map_inMilliseconds hprocessed,
      map_inMilliseconds hclaimed, hcreated.inMilliseconds, hupdated.inMilliseconds]
  have hdenotes :=
    PayoutRow.denotes_ofPayout h.amount fun t ht => (h.times t ht).hasMillisecond
  rwa [hsame] at hdenotes

theorem mapM_map_eq_ok {ε α β γ : Type} {f : α → β} {g : β → Except ε γ} {h : α → γ} {l : List α}
    (hg : ∀ a ∈ l, g (f a) = .ok (h a)) : (l.map f).mapM g = .ok (l.map h) := by
  induction l with
  | nil => rfl
  | cons a l ih =>
      obtain ⟨ha, hl⟩ := List.forall_mem_cons.mp hg
      rw [List.map_cons, List.mapM_cons, ha, ih hl]
      rfl

theorem decode_stored (h : ∀ p ∈ ps, p.IsWhole) : decode (ps.map stored) = .ok ps := by
  have hintegers : (ps.map stored).mapM integers = .ok (ps.map PayoutRow.ofPayout) := by
    refine mapM_map_eq_ok fun p _ => ?_
    rw [integers, stored, PayoutRow.integers_map_int, Except.mapError]
  have hpayouts : (ps.map PayoutRow.ofPayout).mapM PayoutRow.toPayout = .ok (ps.map id) :=
    mapM_map_eq_ok fun p hp => PayoutRow.toPayout_eq_ok_iff.mpr (denotes_of_isWhole (h p hp))
  rw [List.map_id] at hpayouts
  rw [decode, hintegers]
  exact hpayouts

theorem decode?_stored {test : PayoutRow Quantity → Bool} {test' : Payout → Bool}
    (hps : ∀ p ∈ ps, p.IsWhole) (htest : ∀ p, test (stored p) = test' p) :
    decode? ((ps.map stored).find? test) = .ok (ps.find? test') := by
  have hsame : test ∘ stored = test' := funext htest
  rw [List.find?_map, hsame]
  cases hfind : ps.find? test' with
  | none => rfl
  | some p =>
      have hp := hps p (List.mem_of_find?_eq_some hfind)
      exact decode?_eq_ok_some_iff.mpr ⟨_, rfl, denotes_of_isWhole hp⟩

theorem Mirrors.get (h : Mirrors t s) (id : PayoutId) : t.get id = .ok (s.find? id) := by
  rw [PayoutTable.get, h.rows]
  exact decode?_stored h.whole fun p => decide_eq_decide.mpr stored_id_eq_iff

theorem Mirrors.findBySubmission (h : Mirrors t s) (ref : String) :
    t.findBySubmission ref = .ok (s.findSubmission? ref) := by
  rw [PayoutTable.findBySubmission, h.rows]
  exact decode?_stored h.whole fun _ => rfl

theorem columnOrder_stored {column : PayoutRow Quantity → Option Quantity}
    {key : Payout → Option Instant} (hcolumn : ∀ p, column (stored p) = (key p).map storedTime)
    (hp : ∀ t ∈ key p, t.IsWhole) (hq : ∀ t ∈ key q, t.IsWhole) :
    columnOrder column (stored p) (stored q) = Instant.earlier (key p) (key q) := by
  rw [columnOrder, hcolumn, hcolumn]
  cases hkp : key p with
  | none => rfl
  | some t =>
      cases hkq : key q with
      | none => rfl
      | some u => exact storedTime_le (hp t hkp) (hq u hkq)

theorem Mirrors.select (h : Mirrors t s) {column : PayoutRow Quantity → Option Quantity}
    (key : Payout → Option Instant) {test : Quantity → Bool} (test' : Instant → Bool)
    (hcolumn : ∀ p, column (stored p) = (key p).map storedTime)
    (hkey : ∀ p ∈ s.rows, ∀ t ∈ key p, t.IsWhole)
    (htest : ∀ t : Instant, t.IsWhole → test (storedTime t) = test' t) (limit : UInt32) :
    t.select status column test limit =
      .ok (Payout.batch key (fun p => p.status = status && (key p).any test') limit s.rows) := by
  have hfilter : (s.rows.map stored).filter
        (fun r => r.status = status.toText && (column r).any test) =
      (s.rows.filter fun p => p.status = status && (key p).any test').map stored := by
    rw [List.filter_map]
    refine congrArg _ (List.filter_congr fun p hp => ?_)
    have hany : (column (stored p)).any test = (key p).any test' := by
      rw [hcolumn]
      cases hk : key p with
      | none => rfl
      | some t => exact htest t (hkey p hp t hk)
    simp only [Function.comp_apply, stored_status_eq_iff, hany]
  rw [PayoutTable.select, h.rows, hfilter, ← List.map_mergeSort fun p hp q hq =>
    (columnOrder_stored hcolumn (hkey p (List.mem_of_mem_filter hp))
      (hkey q (List.mem_of_mem_filter hq))).symm, ← List.map_take]
  refine decode_stored fun p hp => h.whole p ?_
  exact List.mem_of_mem_filter (List.mem_mergeSort.mp (List.mem_of_mem_take hp))

theorem Mirrors.findDue (h : Mirrors t s) {now : Instant} (hnow : now.IsWhole) (limit : UInt32) :
    t.findDue status now limit = .ok (s.findDue status now limit) := by
  rw [PayoutTable.findDue]
  refine h.select Payout.nextRetryAt (·.ble now) (fun p => ?_)
    (fun p hp => (h.whole p hp).nextRetryAt) (fun t ht => storedTime_le ht hnow) limit
  exact Option.map_map Quantity.int PayoutRow.ofTime p.nextRetryAt

theorem not_storedTime_le {t u : Instant} (ht : t.IsWhole) (hu : u.IsWhole) :
    (!(storedTime u).le (storedTime t)) = t.blt u := by
  rw [storedTime_le hu ht, Bool.eq_iff_iff, ht.blt_iff hu, Bool.not_eq_true', ← Bool.not_eq_true,
    hu.ble_iff ht, Int.not_le]

theorem Mirrors.findStale (h : Mirrors t s) {before : Instant} (hbefore : before.IsWhole)
    (limit : UInt32) : t.findStale status before limit = .ok (s.findStale status before limit) := by
  rw [PayoutTable.findStale]
  refine h.select (fun p => some p.updatedAt) (·.blt before) (fun _ => rfl) (fun p hp t ht => ?_)
    (fun t ht => not_storedTime_le ht hbefore) limit
  obtain rfl := Option.some.inj ht
  exact (h.whole p hp).updatedAt

theorem listOrder_stored (hp : p.IsWhole) (hq : q.IsWhole) :
    listOrder (stored p) (stored q) = MemoryStore.listOrder p q := by
  have hcp := hp.createdAt
  have hcq := hq.createdAt
  have hid : ((stored p).id < (stored q).id) ↔ p.id.value < q.id.value :=
    PayoutId.toText_lt_toText_iff p.id q.id
  have hpq : (stored p).createdAt.le (stored q).createdAt = p.createdAt.ble q.createdAt :=
    storedTime_le hcp hcq
  have hqp : (stored q).createdAt.le (stored p).createdAt = q.createdAt.ble p.createdAt :=
    storedTime_le hcq hcp
  rw [listOrder, MemoryStore.listOrder, hpq, hqp, Bool.eq_iff_iff]
  simp only [Bool.and_eq_true, Bool.or_eq_true, Bool.not_eq_true', ← Bool.not_eq_true,
    decide_eq_true_eq, hcp.ble_iff hcq, hcq.ble_iff hcp, hcq.blt_iff hcp, hcp.eq_iff hcq, hid,
    PayoutId.ble]
  omega

theorem shows_stored (f : Filter) : shows f (stored p) = f.accepts p := by
  have hstatus : f.status.all (fun s => (stored p).status = s.toText) =
      f.status.all (p.status = ·) := by
    cases f.status <;> simp [stored_status_eq_iff]
  have hkind : f.kind.all (fun k => (stored p).kind = k.toText) = f.kind.all (p.kind = ·) := by
    cases f.kind <;> simp [stored_kind_eq_iff]
  rw [shows, Filter.accepts, hstatus, hkind]
  rfl

theorem Mirrors.list (h : Mirrors t s) (f : Filter) : t.list f = .ok (s.list f) := by
  have hfilter : (s.rows.map stored).filter (shows f) = (s.rows.filter f.accepts).map stored := by
    rw [List.filter_map]
    exact congrArg _ (List.filter_congr fun p _ => shows_stored f)
  rw [PayoutTable.list, h.rows, hfilter, ← List.map_mergeSort fun p hp q hq =>
    (listOrder_stored (h.whole p (List.mem_of_mem_filter hp))
      (h.whole q (List.mem_of_mem_filter hq))).symm, ← List.map_drop, ← List.map_take]
  exact decode_stored fun p hp => h.whole p (MemoryStore.mem_list hp)

theorem Mirrors.id_mem_iff (h : Mirrors t s) {id : PayoutId} :
    id.toText ∈ t.rows.map PayoutRow.id ↔ id ∈ s.rows.map Payout.id := by
  rw [h.rows, List.map_map, List.mem_map, List.mem_map]
  exact exists_congr fun p => and_congr_right fun _ => stored_id_eq_iff

theorem Mirrors.submissions (h : Mirrors t s) :
    t.rows.filterMap PayoutRow.submissionRef = s.rows.filterMap Payout.submissionRef := by
  rw [h.rows, List.filterMap_map]
  rfl

theorem Mirrors.create (h : Mirrors t s) (hp : p.IsWhole) (hid : p.id ∉ s.rows.map Payout.id) :
    (t.create p).1 = (s.create p).1 ∧ Mirrors (t.create p).2 (s.create p).2 := by
  have hid' : p.id.toText ∉ t.rows.map PayoutRow.id := h.id_mem_iff.not.mpr hid
  by_cases htaken : ∃ ref ∈ p.submissionRef, ref ∈ s.rows.filterMap Payout.submissionRef
  · obtain ⟨ref, href, hmem⟩ := htaken
    rw [create_of_taken hid' href (h.submissions ▸ hmem), MemoryStore.create_of_taken href hmem]
    exact ⟨rfl, h⟩
  · have hfree : ∀ ref ∈ p.submissionRef, ref ∉ s.rows.filterMap Payout.submissionRef :=
      fun ref href hmem => htaken ⟨ref, href, hmem⟩
    obtain ⟨t', hcreate, hrows⟩ :=
      create_of_isFree (t := t) (p := p) ⟨hid', h.submissions ▸ hfree⟩
    rw [hcreate, MemoryStore.create_of_free hfree]
    refine ⟨rfl, ⟨?_, ?_⟩⟩
    · rw [hrows, h.rows, MemoryStore.rows_insert hid, List.map_append, List.map_singleton]
    · rw [MemoryStore.rows_insert hid]
      intro r hr
      rcases List.mem_append.mp hr with hr | hr
      · exact h.whole r hr
      · exact List.mem_singleton.mp hr ▸ hp

theorem stored_updated (h : p.SameOrigin q) : (stored p).updated (stored q) = stored q := by
  simp only [stored, PayoutRow.updated, PayoutRow.map, PayoutRow.ofPayout, h.id, h.recipient,
    h.amount, h.asset, h.kind, h.questRef, h.submissionRef, h.createdAt]

theorem isTarget_stored {expected : Option Status} :
    isTarget q expected (stored p) = (p.id = q.id && expected.all (p.status = ·)) := by
  cases expected <;> simp [isTarget, stored_id_eq_iff, stored_status_eq_iff]

theorem revise_stored (hid : p.id = row.id → p = row) (horigin : row.SameOrigin q)
    (expected : Option Status) : revise q expected (stored p) =
      if p.id = q.id ∧ expected.all (row.status = ·) then stored q else stored p := by
  rw [revise, isTarget_stored]
  by_cases hq : p.id = q.id
  · obtain rfl := hid (hq.trans horigin.id)
    simp [hq, stored_updated horigin]
  · simp [hq]

/-- An update puts the new version in the place of the one that is there, if that one is in the
expected status. -/
theorem Mirrors.update (h : Mirrors t s) (hrow : row ∈ s.rows) (horigin : row.SameOrigin q)
    (hq : q.IsWhole) (expected : Option Status) :
    Mirrors (t.update q expected)
      (if expected.all (row.status = ·) then s.overwrite q else s) := by
  have hrevise : (t.update q expected).rows = s.rows.map fun p =>
      if p.id = q.id ∧ expected.all (row.status = ·) then stored q else stored p := by
    rw [rows_update, h.rows, List.map_map]
    refine List.map_congr_left fun p hp => ?_
    have hsame : p.id = row.id → p = row := List.inj_on_of_nodup_map s.ids_nodup hp hrow
    rw [Function.comp_apply, revise_stored hsame horigin]
  split
  · rename_i hstatus
    refine ⟨?_, fun r hr => ?_⟩
    · rw [hrevise, MemoryStore.rows_overwrite]
      simp [hstatus, apply_ite stored]
    · rcases MemoryStore.mem_overwrite.mp hr with ⟨hr, -⟩ | ⟨rfl, -⟩
      · exact h.whole r hr
      · exact hq
  · rename_i hstatus
    refine ⟨?_, h.whole⟩
    rw [hrevise]
    simp [hstatus]

theorem Mirrors.save (h : Mirrors t s) (hrow : row ∈ s.rows) (horigin : row.SameOrigin q)
    (hq : q.IsWhole) : (t.save q).1 = (s.save q).1 ∧ Mirrors (t.save q).2 (s.save q).2 := by
  have hfind : s.find? q.id = some row := MemoryStore.find?_eq_some_iff.mpr ⟨hrow, horigin.id.symm⟩
  have htarget : isTarget q none (stored row) = true :=
    isTarget_none (stored_id_eq_iff.mpr horigin.id.symm)
  have hmem : stored row ∈ t.rows := h.rows ▸ List.mem_map_of_mem hrow
  rw [PayoutTable.save, if_neg (updateCount_ne_zero hmem htarget), MemoryStore.save, hfind]
  exact ⟨rfl, h.update hrow horigin hq none⟩

theorem Mirrors.saveIf (h : Mirrors t s) (hrow : row ∈ s.rows) (horigin : row.SameOrigin q)
    (hq : q.IsWhole) (expected : Status) :
    (t.saveIf q expected).1 = (s.saveIf q expected).1 ∧
      Mirrors (t.saveIf q expected).2 (s.saveIf q expected).2 := by
  have hfind : s.find? q.id = some row := MemoryStore.find?_eq_some_iff.mpr ⟨hrow, horigin.id.symm⟩
  have hmem : stored row ∈ t.rows := h.rows ▸ List.mem_map_of_mem hrow
  have hid : (stored row).id = q.id.toText := stored_id_eq_iff.mpr horigin.id.symm
  have hcount : t.updateCount q (some expected) = 1 ↔ row.status = expected := by
    have htarget : isTarget q (some expected) (stored row) = true ↔ row.status = expected := by
      simp [isTarget_stored, horigin.id]
    constructor
    · exact fun hone => htarget.mp (isTarget_of_updateCount hmem hid hone)
    · intro hstatus
      have hpos := updateCount_ne_zero hmem (htarget.mpr hstatus)
      have hle := updateCount_le_one t q (some expected)
      omega
  have hupdate := h.update hrow horigin hq (some expected)
  rw [PayoutTable.saveIf, MemoryStore.saveIf, hfind]
  by_cases hstatus : row.status = expected
  · simpa [hstatus, hcount.mpr hstatus] using hupdate
  · simpa [hstatus, hcount] using hupdate

theorem Mirrors.answer (h : Mirrors t s) {c : StoreCall} (hc : c.IsWhole) (hadmits : s.Admits c) :
    (t.answer c).1 = (s.answer c).1 ∧ Mirrors (t.answer c).2 (s.answer c).2 := by
  cases c with
  | create p => exact h.create hc hadmits
  | get id => exact ⟨h.get id, h⟩
  | findBySubmission ref => exact ⟨h.findBySubmission ref, h⟩
  | save q =>
      obtain ⟨row, hrow, horigin⟩ := hadmits
      exact h.save hrow horigin hc
  | saveIf q expected =>
      obtain ⟨row, hrow, horigin⟩ := hadmits
      exact h.saveIf hrow horigin hc expected
  | findDue status now limit => exact ⟨h.findDue hc limit, h⟩
  | findStale status before limit => exact ⟨h.findStale hc limit, h⟩
  | list f => exact ⟨h.list f, h⟩

end PayoutTable

end Disburse
