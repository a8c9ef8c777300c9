import Disburse.Proofs.Store.Table
import Mathlib.Data.List.Forall2

/-!
Rows of the payout table that denote no payout. Calls that are about other rows do not see them,
but a batch that one of them is chosen for fails as a whole.
-/

namespace Disburse

namespace PayoutTable

variable {t : PayoutTable} {row : PayoutRow Quantity} {p : Payout} {id : PayoutId}
  {ids : List String} {rows : List (PayoutRow Quantity)} {ps : List Payout} {status : Status}
  {column : PayoutRow Quantity → Option Quantity} {test : Quantity → Bool} {limit : UInt32}

theorem forall₂_of_mapM {ε α β : Type} {f : α → Except ε β} {as : List α} {bs : List β}
    (h : as.mapM f = .ok bs) : List.Forall₂ (fun a b => f a = .ok b) as bs := by
  induction as generalizing bs with
  | nil =>
      cases h
      exact .nil
  | cons a as ih =>
      simp only [List.mapM_cons, PayoutRow.bind_eq_ok_iff] at h
      obtain ⟨b, hb, bs', hbs, hcons⟩ := h
      cases hcons
      exact .cons hb (ih hbs)

theorem holds_of_integers {r : PayoutRow Int64} (hr : integers row = .ok r)
    (hp : r.toPayout = .ok p) : Holds row p := by
  have hread : decode? (some row) = .ok (some p) :=
    PayoutRow.bind_eq_ok_iff.mpr ⟨r, hr, PayoutRow.bind_eq_ok_iff.mpr ⟨p, hp, rfl⟩⟩
  exact decode?_eq_ok_some_iff.mp hread

theorem forall₂_of_decode (h : decode rows = .ok ps) : List.Forall₂ Holds rows ps := by
  obtain ⟨rs, hrs, hps⟩ := PayoutRow.bind_eq_ok_iff.mp h
  have hrows := forall₂_of_mapM hrs
  have hpayouts := forall₂_of_mapM hps
  clear h hrs hps
  induction hrows generalizing ps with
  | nil =>
      cases hpayouts
      exact .nil
  | cons hr _ ih =>
      rcases hpayouts with _ | ⟨hp, hps⟩
      exact .cons (holds_of_integers hr hp) (ih hps)

theorem exists_of_forall₂ {α β : Type} {R : α → β → Prop} {as : List α} {bs : List β} {b : β}
    (h : List.Forall₂ R as bs) (hb : b ∈ bs) : ∃ a ∈ as, R a b := by
  induction h with
  | nil => cases hb
  | cons hfirst _ ih =>
      rcases List.mem_cons.mp hb with rfl | hb
      · exact ⟨_, List.mem_cons_self, hfirst⟩
      · obtain ⟨a, ha, hR⟩ := ih hb
        exact ⟨a, List.mem_cons_of_mem _ ha, hR⟩

theorem exists_row_of_decode (h : decode rows = .ok ps) (hp : p ∈ ps) :
    ∃ row ∈ rows, Holds row p :=
  exists_of_forall₂ (forall₂_of_decode h) hp

theorem exists_payout_of_decode (h : decode rows = .ok ps) (hrow : row ∈ rows) :
    ∃ p ∈ ps, Holds row p :=
  exists_of_forall₂ (forall₂_of_decode h).flip hrow

/-- A row that a batch may be read from. -/
def isChosen (status : Status) (column : PayoutRow Quantity → Option Quantity)
    (test : Quantity → Bool) (r : PayoutRow Quantity) : Bool :=
  r.status = status.toText && (column r).any test

/-- Not touched since a time, and still in processing. -/
def isStale (before : Instant) : PayoutRow Quantity → Bool :=
  isChosen .processing (fun r => some r.updatedAt) fun x => !(storedTime before).le x

/-- Waiting for a retry whose time has come. -/
def isDue (now : Instant) : PayoutRow Quantity → Bool :=
  isChosen .retryScheduled PayoutRow.nextRetryAt fun x => x.le (storedTime now)

/-- The rows of a batch. -/
def batchRows (t : PayoutTable) (status : Status)
    (column : PayoutRow Quantity → Option Quantity) (test : Quantity → Bool) (limit : UInt32) :
    List (PayoutRow Quantity) :=
  ((t.rows.filter (isChosen status column test)).mergeSort (columnOrder column)).take limit.toNat

theorem select_eq : t.select status column test limit =
    decode (t.batchRows status column test limit) :=
  rfl

theorem isChosen_of_mem_batchRows (h : row ∈ t.batchRows status column test limit) :
    row ∈ t.rows ∧ isChosen status column test row = true :=
  List.mem_filter.mp (List.mem_mergeSort.mp (List.mem_of_mem_take h))

theorem mem_batchRows (hrow : row ∈ t.rows) (hchosen : isChosen status column test row = true)
    (hlimit : t.rows.countP (isChosen status column test) ≤ limit.toNat) :
    row ∈ t.batchRows status column test limit := by
  rw [batchRows, List.take_of_length_le]
  · exact List.mem_mergeSort.mpr (List.mem_filter.mpr ⟨hrow, hchosen⟩)
  · rwa [List.length_mergeSort, ← List.countP_eq_length_filter]

/-- The identifiers of the rows that denote no payout. -/
def unreadable (t : PayoutTable) : List String :=
  (t.rows.filter fun r => (decode? (some r)).toOption.isNone).map PayoutRow.id

theorem not_holds_of_unreadable (hrow : row ∈ t.rows) (h : row.id ∈ t.unreadable) :
    ¬ Holds row p := by
  intro hholds
  obtain ⟨r, hr, hid⟩ := List.mem_map.mp h
  obtain ⟨hmem, hnone⟩ := List.mem_filter.mp hr
  obtain rfl := List.inj_on_of_nodup_map t.ids_nodup hmem hrow hid
  rw [decode?_eq_ok_some_iff.mpr hholds] at hnone
  cases hnone

theorem select_error (hrow : row ∈ t.rows) (h : ∀ p, ¬ Holds row p)
    (hchosen : isChosen status column test row = true)
    (hlimit : t.rows.countP (isChosen status column test) ≤ limit.toNat) :
    ∃ e, t.select status column test limit = .error e := by
  cases hselect : t.select status column test limit with
  | error e => exact ⟨e, rfl⟩
  | ok ps =>
      obtain ⟨p, -, hp⟩ := exists_payout_of_decode hselect (mem_batchRows hrow hchosen hlimit)
      exact absurd hp (h p)

/-- The table without the rows of some identifiers. -/
def without (t : PayoutTable) (ids : List String) : PayoutTable where
  rows := t.rows.filter fun r => r.id ∉ ids
  ids_nodup := t.ids_nodup.sublist (List.filter_sublist.map _)
  submissions_nodup := t.submissions_nodup.sublist (List.filter_sublist.filterMap _)

theorem get_without (h : id.toText ∉ ids) : (t.without ids).get id = t.get id := by
  have hfind : (t.without ids).rows.find? (fun r => r.id = id.toText) =
      t.rows.find? fun r => r.id = id.toText := by
    rw [without, List.find?_filter]
    refine congrArg (t.rows.find? ·) (funext fun r => ?_)
    by_cases hid : r.id = id.toText
    all_goals simp [hid, h]
  rw [get, hfind, get]

theorem updateCount_without {expected : Option Status} (h : p.id.toText ∉ ids) :
    (t.without ids).updateCount p expected = t.updateCount p expected := by
  rw [updateCount, without, List.countP_filter, updateCount]
  refine congrArg (t.rows.countP ·) (funext fun r => ?_)
  by_cases htarget : isTarget p expected r = true
  · simp [htarget, id_of_isTarget htarget, h]
  · simp [htarget]

theorem update_without {expected : Option Status} :
    (t.without ids).update p expected = (t.update p expected).without ids := by
  have hids : (fun r : PayoutRow Quantity => decide (r.id ∉ ids)) ∘ revise p expected =
      fun r => decide (r.id ∉ ids) :=
    funext fun r => by simp [revise_id]
  simp only [without, update, List.filter_map, hids]

theorem saveIf_without (expected : Status) (h : p.id.toText ∉ ids) :
    (t.without ids).saveIf p expected =
      ((t.saveIf p expected).1, (t.saveIf p expected).2.without ids) := by
  rw [saveIf, updateCount_without h, update_without]
  rfl

theorem select_without
    (h : ∀ row ∈ t.rows, row.id ∈ ids → isChosen status column test row = false) :
    (t.without ids).select status column test limit = t.select status column test limit := by
  have hrows : (t.without ids).rows.filter (isChosen status column test) =
      t.rows.filter (isChosen status column test) := by
    rw [without, List.filter_filter]
    refine List.filter_congr fun r hr => ?_
    by_cases hid : r.id ∈ ids
    · simp [hid, h r hr hid]
    · simp [hid]
  rw [select_eq, select_eq, batchRows, hrows, batchRows]

theorem mem_update_iff {expected : Option Status} (h : row.id ≠ p.id.toText) :
    row ∈ (t.update p expected).rows ↔ row ∈ t.rows := by
  have hfilter := congrArg (row ∈ ·) (filter_update t p expected)
  simpa [h] using hfilter

theorem map_id_update (t : PayoutTable) (p : Payout) (expected : Option Status) :
    (t.update p expected).rows.map PayoutRow.id = t.rows.map PayoutRow.id := by
  rw [rows_update, List.map_map]
  exact List.map_congr_left fun r _ => revise_id p expected r

end PayoutTable

end Disburse
