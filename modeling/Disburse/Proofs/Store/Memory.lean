import Disburse.Store.Memory
import Mathlib.Data.List.Nodup

namespace Disburse

/-- Calls that change nothing. -/
def StoreCall.isRead : StoreCall → Bool
  | .get _ => true
  | .findBySubmission _ => true
  | .findDue .. => true
  | .findStale .. => true
  | .list _ => true
  | .create _ => false
  | .save _ => false
  | .saveIf .. => false

/-- Reads whose answers may depend on the order in which the records are kept. -/
def StoreCall.isBatch : StoreCall → Bool
  | .findDue .. => true
  | .findStale .. => true
  | _ => false

theorem find?_id_of_nodup {ps : List Payout} {p : Payout} (hnodup : (ps.map Payout.id).Nodup)
    (hp : p ∈ ps) : ps.find? (fun q => q.id = p.id) = some p :=
  (Distinct.find?_eq_some_iff Payout.id hnodup).mpr ⟨hp, rfl⟩

namespace MemoryStore

variable {s s' : MemoryStore} {p q : Payout} {id : PayoutId}

/-- The same records, kept in another order. -/
def reordered (s : MemoryStore) {rows : List Payout} (h : rows.Perm s.rows) : MemoryStore where
  rows := rows
  ids_nodup := (h.map Payout.id).nodup_iff.mpr s.ids_nodup

theorem find?_eq_some_iff : s.find? id = some p ↔ p ∈ s.rows ∧ p.id = id :=
  Distinct.find?_eq_some_iff Payout.id s.ids_nodup

theorem find?_id (h : s.find? id = some p) : p.id = id :=
  (find?_eq_some_iff.mp h).2

theorem mem_of_find? (h : s.find? id = some p) : p ∈ s.rows :=
  (find?_eq_some_iff.mp h).1

theorem find?_of_mem (h : p ∈ s.rows) : s.find? p.id = some p :=
  find?_eq_some_iff.mpr ⟨h, rfl⟩

theorem find?_eq_none_iff : s.find? id = none ↔ id ∉ s.rows.map Payout.id := by
  simp [find?]

theorem rows_overwrite (s : MemoryStore) (p : Payout) :
    (s.overwrite p).rows = s.rows.map fun r => if r.id = p.id then p else r :=
  rfl

theorem mem_overwrite : q ∈ (s.overwrite p).rows ↔
    (q ∈ s.rows ∧ q.id ≠ p.id) ∨ (q = p ∧ p.id ∈ s.rows.map Payout.id) := by
  simp only [overwrite, List.mem_map]
  constructor
  · rintro ⟨r, hr, rfl⟩
    by_cases hid : r.id = p.id
    · exact .inr ⟨by simp [hid], r, hr, hid⟩
    · exact .inl (by simpa [hid] using hr)
  · rintro (⟨hq, hid⟩ | ⟨rfl, r, hr, hid⟩)
    · exact ⟨q, hq, by simp [hid]⟩
    · exact ⟨r, hr, by simp [hid]⟩

theorem find?_overwrite_of_ne (h : id ≠ p.id) : (s.overwrite p).find? id = s.find? id := by
  apply Option.ext
  intro q
  simp only [find?_eq_some_iff, mem_overwrite]
  constructor
  · rintro ⟨⟨hq, -⟩ | ⟨rfl, -⟩, hid⟩
    · exact ⟨hq, hid⟩
    · exact absurd hid.symm h
  · rintro ⟨hq, hid⟩
    exact ⟨.inl ⟨hq, hid ▸ h⟩, hid⟩

theorem find?_overwrite_self (h : s.find? p.id = some q) :
    (s.overwrite p).find? p.id = some p := by
  rw [find?_eq_some_iff, mem_overwrite]
  obtain ⟨hq, hid⟩ := find?_eq_some_iff.mp h
  exact ⟨.inr ⟨rfl, List.mem_map.mpr ⟨q, hq, hid⟩⟩, rfl⟩

theorem overwrite_overwrite (h : q.id = p.id) : (s.overwrite p).overwrite q = s.overwrite q := by
  have hrows : ((s.overwrite p).overwrite q).rows = (s.overwrite q).rows := by
    simp only [overwrite, List.map_map]
    refine List.map_congr_left fun r _ => ?_
    by_cases hr : r.id = p.id <;> simp [hr, h]
  cases hleft : (s.overwrite p).overwrite q
  cases hright : s.overwrite q
  rw [hleft, hright] at hrows
  cases hrows
  rfl

theorem mem_insert : q ∈ (s.insert p).rows ↔ (q ∈ s.rows ∧ q.id ≠ p.id) ∨ q = p := by
  unfold insert
  split
  · rename_i hmem
    simp [mem_overwrite, hmem]
  · rename_i hmem
    simp only [List.mem_append, List.mem_singleton]
    refine or_congr_left ⟨fun hq => ⟨hq, fun hid => ?_⟩, And.left⟩
    exact hmem (List.mem_map.mpr ⟨q, hq, hid⟩)

theorem find?_insert_of_ne (h : id ≠ p.id) : (s.insert p).find? id = s.find? id := by
  apply Option.ext
  intro q
  simp only [find?_eq_some_iff, mem_insert]
  constructor
  · rintro ⟨⟨hq, -⟩ | rfl, hid⟩
    · exact ⟨hq, hid⟩
    · exact absurd hid.symm h
  · rintro ⟨hq, hid⟩
    exact ⟨.inl ⟨hq, hid ▸ h⟩, hid⟩

theorem find?_insert_self : (s.insert p).find? p.id = some p := by
  rw [find?_eq_some_iff, mem_insert]
  exact ⟨.inr rfl, rfl⟩

theorem rows_insert (h : p.id ∉ s.rows.map Payout.id) : (s.insert p).rows = s.rows ++ [p] := by
  rw [insert, dif_neg h]

theorem isSome_findSubmission? {ref : String} :
    (s.findSubmission? ref).isSome ↔ ref ∈ s.rows.filterMap Payout.submissionRef := by
  simp [findSubmission?, List.mem_filterMap]

theorem findSubmission?_eq_some_iff {ref : String}
    (hnodup : (s.rows.filterMap Payout.submissionRef).Nodup) :
    s.findSubmission? ref = some p ↔ p ∈ s.rows ∧ p.submissionRef = some ref :=
  Distinct.find?_filterMap_eq_some_iff Payout.submissionRef hnodup

theorem create_of_taken {ref : String} (href : p.submissionRef = some ref)
    (hmem : ref ∈ s.rows.filterMap Payout.submissionRef) :
    s.create p = (.error (.submissionTaken ref), s) := by
  simp [create, href, isSome_findSubmission?.mpr hmem]

theorem create_of_free
    (hfree : ∀ ref ∈ p.submissionRef, ref ∉ s.rows.filterMap Payout.submissionRef) :
    s.create p = (.ok (), s.insert p) := by
  rw [create]
  split
  · rename_i ref href
    rw [if_neg fun hsome => hfree ref href (isSome_findSubmission?.mp hsome)]
  · rfl

theorem saveIf_cases (s : MemoryStore) (p : Payout) (expected : Status) :
    (∃ row, s.find? p.id = some row ∧ row.status = expected ∧
      s.saveIf p expected = (.ok true, s.overwrite p)) ∨
    ((s.saveIf p expected).2 = s ∧ (s.saveIf p expected).1 ≠ .ok true) := by
  unfold saveIf
  cases hrow : s.find? p.id with
  | none => exact .inr ⟨rfl, by simp⟩
  | some row =>
      by_cases hstatus : row.status = expected
      · exact .inl ⟨row, rfl, hstatus, by simp [hstatus]⟩
      · exact .inr (by simp [hstatus])

theorem create_cases (s : MemoryStore) (p : Payout) :
    (s.create p).2 = s.insert p ∨ (s.create p).2 = s := by
  unfold create
  cases p.submissionRef with
  | none => exact .inl rfl
  | some ref =>
      by_cases htaken : (s.findSubmission? ref).isSome
      · exact .inr (by simp [htaken])
      · exact .inl (by simp [htaken])

theorem create_of_ok (h : (s.create p).1 = .ok ()) : (s.create p).2 = s.insert p := by
  unfold create at h ⊢
  cases hsubmission : p.submissionRef with
  | none => rfl
  | some ref =>
      by_cases htaken : (s.findSubmission? ref).isSome
      · simp [hsubmission, htaken] at h
      · simp [htaken]

theorem mem_of_findSubmission? {ref : String} (h : s.findSubmission? ref = some p) :
    p ∈ s.rows :=
  List.mem_of_find?_eq_some h

theorem mem_findDue {status : Status} {now : Instant} {limit : UInt32}
    (h : p ∈ s.findDue status now limit) : p ∈ s.rows ∧ p.status = status := by
  have hmem := List.mem_of_mem_take h
  rw [List.mem_mergeSort, List.mem_filter, Bool.and_eq_true, decide_eq_true_eq] at hmem
  exact ⟨hmem.1, hmem.2.1⟩

theorem due_of_mem_findDue {status : Status} {now : Instant} {limit : UInt32}
    (h : p ∈ s.findDue status now limit) : p.nextRetryAt.any (·.ble now) = true := by
  have hmem := List.mem_of_mem_take h
  rw [List.mem_mergeSort, List.mem_filter, Bool.and_eq_true] at hmem
  exact hmem.2.2

theorem mem_findStale {status : Status} {before : Instant} {limit : UInt32}
    (h : p ∈ s.findStale status before limit) : p ∈ s.rows := by
  have hmem := List.mem_of_mem_take h
  rw [List.mem_mergeSort, List.mem_filter] at hmem
  exact hmem.1

theorem status_of_mem_findStale {status : Status} {before : Instant} {limit : UInt32}
    (h : p ∈ s.findStale status before limit) : p.status = status := by
  have hmem := List.mem_of_mem_take h
  rw [List.mem_mergeSort, List.mem_filter, Bool.and_eq_true, decide_eq_true_eq] at hmem
  exact hmem.2.1

theorem mem_list {filter : Filter} (h : p ∈ s.list filter) : p ∈ s.rows := by
  have hmem := List.mem_of_mem_drop (List.mem_of_mem_take h)
  rw [List.mem_mergeSort, List.mem_filter] at hmem
  exact hmem.1

theorem findDue_ids_nodup {status : Status} {now : Instant} {limit : UInt32} :
    ((s.findDue status now limit).map Payout.id).Nodup := by
  refine List.Nodup.sublist ((List.take_sublist ..).map Payout.id) ?_
  refine ((List.mergeSort_perm ..).map Payout.id).nodup_iff.mpr ?_
  exact s.ids_nodup.sublist (List.filter_sublist.map Payout.id)

theorem findStale_ids_nodup {status : Status} {before : Instant} {limit : UInt32} :
    ((s.findStale status before limit).map Payout.id).Nodup := by
  refine List.Nodup.sublist ((List.take_sublist ..).map Payout.id) ?_
  refine ((List.mergeSort_perm ..).map Payout.id).nodup_iff.mpr ?_
  exact s.ids_nodup.sublist (List.filter_sublist.map Payout.id)

theorem answer_of_isRead {c : StoreCall} (h : c.isRead = true) : (s.answer c).2 = s := by
  cases c with
  | create _ | save _ | saveIf _ _ => cases h
  | get _ | findBySubmission _ | findDue _ _ _ | findStale _ _ _ | list _ => rfl

end MemoryStore

end Disburse
