import Disburse.Proofs.Store.Mirror
import Mathlib.Data.List.Perm.Basic

/-!
The memory store and the payout table agree. Neither promises an order of its rows, so they are
compared for every order in which their rows may stand at each call.
-/

namespace Disburse

theorem mergeSort_eq_of_perm {α : Type} {le : α → α → Bool} {xs ys : List α} (h : xs.Perm ys)
    (htrans : ∀ a b c, le a b = true → le b c = true → le a c = true)
    (htotal : ∀ a b, (le a b || le b a) = true)
    (hantisymm : ∀ a ∈ xs, ∀ b ∈ xs, le a b = true → le b a = true → a = b) :
    xs.mergeSort le = ys.mergeSort le := by
  have hperm : (xs.mergeSort le).Perm (ys.mergeSort le) :=
    ((List.mergeSort_perm xs le).trans h).trans (List.mergeSort_perm ys le).symm
  refine List.Perm.eq_of_pairwise (fun a b ha hb => ?_) (List.pairwise_mergeSort htrans htotal xs)
    (List.pairwise_mergeSort htrans htotal ys) hperm
  exact hantisymm a (List.mem_mergeSort.mp ha) b (h.mem_iff.mpr (List.mem_mergeSort.mp hb))

namespace Instant

theorem earlier_some {t u : Instant} : earlier (some t) (some u) = true ↔
    t.seconds < u.seconds ∨ (t.seconds = u.seconds ∧ t.nanos ≤ u.nanos) :=
  ble_iff

theorem earlier_trans (t u v : Option Instant) (htu : earlier t u = true)
    (huv : earlier u v = true) : earlier t v = true := by
  cases t with
  | none => rfl
  | some t =>
      cases u with
      | none => cases htu
      | some u =>
          cases v with
          | none => cases huv
          | some v =>
              rw [earlier_some] at htu huv ⊢
              omega

theorem earlier_total (t u : Option Instant) : (earlier t u || earlier u t) = true := by
  cases t with
  | none => rfl
  | some t =>
      cases u with
      | none => rfl
      | some u =>
          rw [Bool.or_eq_true, earlier_some, earlier_some]
          omega

theorem earlier_antisymm (t u : Option Instant) (htu : earlier t u = true)
    (hut : earlier u t = true) : t = u := by
  cases t with
  | none =>
      cases u with
      | none => rfl
      | some u => cases hut
  | some t =>
      cases u with
      | none => cases htu
      | some u =>
          rw [earlier_some] at htu hut
          rw [Option.some_inj, eq_iff]
          omega

end Instant

/-- Batches that show the same times, and the same records if they show all of them. -/
structure SameBatch (key : Payout → Option Instant) (limit : UInt32) (xs ys : List Payout) :
    Prop where
  keys : xs.map key = ys.map key
  records : xs.length < limit.toNat → xs.Perm ys

/-- Answers to a call that are equal, but for the order of records of one time and for the choice
among them. -/
def StoreCall.Alike : (c : StoreCall) → c.Answer → c.Answer → Prop
  | .findDue _ _ limit, a, b =>
      ∃ xs ys, a = .ok xs ∧ b = .ok ys ∧ SameBatch Payout.nextRetryAt limit xs ys
  | .findStale _ _ limit, a, b =>
      ∃ xs ys, a = .ok xs ∧ b = .ok ys ∧ SameBatch (fun p => some p.updatedAt) limit xs ys
  | _, a, b => a = b

theorem sameBatch_of_perm {ps qs : List Payout} (h : ps.Perm qs) (key : Payout → Option Instant)
    (test : Payout → Bool) (limit : UInt32) :
    SameBatch key limit (Payout.batch key test limit ps) (Payout.batch key test limit qs) := by
  have hfilter := h.filter test
  have hkeys : ∀ xs : List Payout,
      (xs.mergeSort fun p q => Instant.earlier (key p) (key q)).map key =
        (xs.map key).mergeSort Instant.earlier :=
    fun xs => List.map_mergeSort fun _ _ _ _ => rfl
  constructor
  · rw [Payout.batch, Payout.batch, List.map_take, List.map_take, hkeys, hkeys,
      mergeSort_eq_of_perm (hfilter.map key) Instant.earlier_trans Instant.earlier_total
        fun t _ u _ => Instant.earlier_antisymm t u]
  · intro hshort
    rw [Payout.batch, List.length_take, List.length_mergeSort] at hshort
    have hlength := hfilter.length_eq
    rw [Payout.batch, Payout.batch, List.take_of_length_le (by rw [List.length_mergeSort]; omega),
      List.take_of_length_le (by rw [List.length_mergeSort]; omega)]
    exact ((List.mergeSort_perm ..).trans hfilter).trans (List.mergeSort_perm ..).symm

namespace MemoryStore

variable {s s' : MemoryStore} {p : Payout}

theorem listOrder_iff {p q : Payout} : listOrder p q = true ↔
    (q.createdAt.seconds < p.createdAt.seconds ∨
      (q.createdAt.seconds = p.createdAt.seconds ∧ q.createdAt.nanos < p.createdAt.nanos)) ∨
    ((p.createdAt.seconds = q.createdAt.seconds ∧ p.createdAt.nanos = q.createdAt.nanos) ∧
      q.id.value ≤ p.id.value) := by
  simp [listOrder, PayoutId.ble, Instant.eq_iff, Instant.blt_iff]

theorem find?_of_perm (h : s.rows.Perm s'.rows) (id : PayoutId) : s.find? id = s'.find? id := by
  refine Option.ext fun p => ?_
  rw [find?_eq_some_iff, find?_eq_some_iff, h.mem_iff]

theorem findSubmission?_of_perm (h : s.rows.Perm s'.rows)
    (hnodup : (s.rows.filterMap Payout.submissionRef).Nodup) (ref : String) :
    s.findSubmission? ref = s'.findSubmission? ref := by
  have hnodup' := ((h.filterMap Payout.submissionRef).nodup_iff).mp hnodup
  refine Option.ext fun p => ?_
  rw [findSubmission?_eq_some_iff hnodup, findSubmission?_eq_some_iff hnodup', h.mem_iff]

theorem list_of_perm (h : s.rows.Perm s'.rows) (f : Filter) : s.list f = s'.list f := by
  have hsorted : (s.rows.filter f.accepts).mergeSort listOrder =
      (s'.rows.filter f.accepts).mergeSort listOrder := by
    refine mergeSort_eq_of_perm (h.filter f.accepts) ?_ ?_ ?_
    · intro p q r
      simp only [listOrder_iff]
      omega
    · intro p q
      simp only [Bool.or_eq_true, listOrder_iff]
      omega
    · intro p hp q hq hpq hqp
      rw [listOrder_iff] at hpq hqp
      have hid : p.id = q.id := PayoutId.value_injective (by omega)
      exact List.inj_on_of_nodup_map s.ids_nodup (List.mem_of_mem_filter hp)
        (List.mem_of_mem_filter hq) hid
  rw [list, list, hsorted]

theorem overwrite_of_perm (h : s.rows.Perm s'.rows) (p : Payout) :
    (s.overwrite p).rows.Perm (s'.overwrite p).rows :=
  h.map _

theorem insert_of_perm (h : s.rows.Perm s'.rows) (p : Payout) :
    (s.insert p).rows.Perm (s'.insert p).rows := by
  by_cases hid : p.id ∈ s.rows.map Payout.id
  · rw [insert, insert, dif_pos hid, dif_pos ((h.map _).mem_iff.mp hid)]
    exact overwrite_of_perm h p
  · rw [insert, insert, dif_neg hid, dif_neg ((h.map _).mem_iff.not.mp hid)]
    exact h.append_right [p]

theorem create_of_perm (h : s.rows.Perm s'.rows) (p : Payout) :
    (s.create p).1 = (s'.create p).1 ∧ (s.create p).2.rows.Perm (s'.create p).2.rows := by
  have hsubmissions := h.filterMap Payout.submissionRef
  by_cases htaken : ∃ ref ∈ p.submissionRef, ref ∈ s.rows.filterMap Payout.submissionRef
  · obtain ⟨ref, href, hmem⟩ := htaken
    rw [create_of_taken href hmem, create_of_taken href (hsubmissions.mem_iff.mp hmem)]
    exact ⟨rfl, h⟩
  · have hfree : ∀ ref ∈ p.submissionRef, ref ∉ s.rows.filterMap Payout.submissionRef :=
      fun ref href hmem => htaken ⟨ref, href, hmem⟩
    rw [create_of_free hfree,
      create_of_free fun ref href => hsubmissions.mem_iff.not.mp (hfree ref href)]
    exact ⟨rfl, insert_of_perm h p⟩

theorem save_of_perm (h : s.rows.Perm s'.rows) (p : Payout) :
    (s.save p).1 = (s'.save p).1 ∧ (s.save p).2.rows.Perm (s'.save p).2.rows := by
  rw [save, save, ← find?_of_perm h]
  split
  · exact ⟨rfl, overwrite_of_perm h p⟩
  · exact ⟨rfl, h⟩

theorem saveIf_of_perm (h : s.rows.Perm s'.rows) (p : Payout) (expected : Status) :
    (s.saveIf p expected).1 = (s'.saveIf p expected).1 ∧
      (s.saveIf p expected).2.rows.Perm (s'.saveIf p expected).2.rows := by
  rw [saveIf, saveIf, ← find?_of_perm h]
  split
  · split
    · exact ⟨rfl, overwrite_of_perm h p⟩
    · exact ⟨rfl, h⟩
  · exact ⟨rfl, h⟩

theorem rows_answer_of_perm (h : s.rows.Perm s'.rows) (c : StoreCall) :
    (s.answer c).2.rows.Perm (s'.answer c).2.rows := by
  cases c with
  | create p => exact (create_of_perm h p).2
  | save p => exact (save_of_perm h p).2
  | saveIf p expected => exact (saveIf_of_perm h p expected).2
  | get _ | findBySubmission _ | findDue _ _ _ | findStale _ _ _ | list _ => exact h

theorem alike_of_perm (h : s.rows.Perm s'.rows)
    (hnodup : (s.rows.filterMap Payout.submissionRef).Nodup) (c : StoreCall) :
    c.Alike (s.answer c).1 (s'.answer c).1 := by
  cases c with
  | create p => exact (create_of_perm h p).1
  | get id => exact congrArg Except.ok (find?_of_perm h id)
  | findBySubmission ref => exact congrArg Except.ok (findSubmission?_of_perm h hnodup ref)
  | save p => exact (save_of_perm h p).1
  | saveIf p expected => exact (saveIf_of_perm h p expected).1
  | findDue status now limit => exact ⟨_, _, rfl, rfl, sameBatch_of_perm h ..⟩
  | findStale status before limit => exact ⟨_, _, rfl, rfl, sameBatch_of_perm h ..⟩
  | list f => exact congrArg Except.ok (list_of_perm h f)

theorem Admits.of_perm (h : s.rows.Perm s'.rows) {c : StoreCall} (hc : s.Admits c) :
    s'.Admits c := by
  cases c with
  | create p => exact fun hmem => hc ((h.map _).mem_iff.mpr hmem)
  | save p | saveIf p _ =>
      obtain ⟨row, hrow, horigin⟩ := hc
      exact ⟨row, h.mem_iff.mp hrow, horigin⟩
  | get _ | findBySubmission _ | findDue _ _ _ | findStale _ _ _ | list _ => trivial

/-- All of the calls, one after the other, are in whole milliseconds and admitted. -/
def Proper : MemoryStore → List StoreCall → Prop
  | _, [] => True
  | s, c :: calls => c.IsWhole ∧ s.Admits c ∧ Proper (s.answer c).2 calls

theorem Proper.of_perm {calls : List StoreCall} (h : s.rows.Perm s'.rows)
    (hcalls : s.Proper calls) : s'.Proper calls := by
  induction calls generalizing s s' with
  | nil => trivial
  | cons c calls ih =>
      obtain ⟨hwhole, hadmits, hrest⟩ := hcalls
      exact ⟨hwhole, hadmits.of_perm h, ih (rows_answer_of_perm h c) hrest⟩

end MemoryStore

/-- A table holds the rows of the payouts in a memory store, in any order. -/
def PayoutTable.Tracks (t : PayoutTable) (s : MemoryStore) : Prop :=
  ∃ s₀ : MemoryStore, s₀.rows.Perm s.rows ∧ t.Mirrors s₀

/-- All of the calls, one after the other, are answered alike by both stores, whatever order their
rows stand in at each of them. -/
def Agree : List StoreCall → MemoryStore → PayoutTable → Prop
  | [], _, _ => True
  | c :: calls, s, t =>
      ∀ (s' : MemoryStore) (t' : PayoutTable), s'.rows.Perm s.rows → t'.rows.Perm t.rows →
        c.Alike (s'.answer c).1 (t'.answer c).1 ∧ Agree calls (s'.answer c).2 (t'.answer c).2

namespace PayoutTable

variable {s s' : MemoryStore} {t t' : PayoutTable}

theorem Mirrors.of_perm (h : t.Mirrors s) (ht : t'.rows.Perm t.rows) :
    ∃ s', s'.rows.Perm s.rows ∧ t'.Mirrors s' := by
  -- The payouts are put in order row by row, so nothing has to be read back for it.
  have hstored : List.Forall₂ (fun r p => r = stored p) t.rows s.rows := by
    rw [h.rows, List.forall₂_map_left_iff]
    exact List.forall₂_same.mpr fun p _ => rfl
  obtain ⟨ps, hrows, hperm⟩ := List.perm_comp_forall₂ ht hstored
  have hrows' : t'.rows = ps.map stored := by
    rw [← List.forall₂_eq_eq_eq, List.forall₂_map_right_iff]
    exact hrows
  exact ⟨⟨ps, (hperm.map _).nodup_iff.mpr s.ids_nodup⟩, hperm, hrows',
    fun p hp => h.whole p (hperm.mem_iff.mp hp)⟩

theorem Tracks.of_perm (h : t.Tracks s) (hs : s'.rows.Perm s.rows) (ht : t'.rows.Perm t.rows) :
    t'.Tracks s' := by
  obtain ⟨s₀, hperm, hmirrors⟩ := h
  obtain ⟨s₁, hperm', hmirrors'⟩ := hmirrors.of_perm ht
  exact ⟨s₁, (hperm'.trans hperm).trans hs.symm, hmirrors'⟩

theorem Tracks.answer (h : t.Tracks s) {c : StoreCall} (hc : c.IsWhole) (hadmits : s.Admits c) :
    c.Alike (s.answer c).1 (t.answer c).1 ∧ (t.answer c).2.Tracks (s.answer c).2 := by
  obtain ⟨s₀, hperm, hmirrors⟩ := h
  obtain ⟨hanswer, hnext⟩ := hmirrors.answer hc (hadmits.of_perm hperm.symm)
  have hnodup : (s.rows.filterMap Payout.submissionRef).Nodup := by
    have hsubmissions := hmirrors.submissions ▸ t.submissions_nodup
    exact (hperm.filterMap _).nodup_iff.mp hsubmissions
  rw [hanswer]
  exact ⟨MemoryStore.alike_of_perm hperm.symm hnodup c, _, MemoryStore.rows_answer_of_perm hperm c,
    hnext⟩

theorem Tracks.agree (h : t.Tracks s) {calls : List StoreCall} (hcalls : s.Proper calls) :
    Agree calls s t := by
  induction calls generalizing s t with
  | nil => trivial
  | cons c calls ih =>
      -- The rows have come to stand in another order; the calls are as proper as before.
      intro s' t' hs ht
      obtain ⟨hwhole, hadmits, hrest⟩ := hcalls.of_perm hs.symm
      obtain ⟨halike, hnext⟩ := (h.of_perm hs ht).answer hwhole hadmits
      exact ⟨halike, ih hnext hrest⟩

end PayoutTable

/-- Started empty, the stores agree on all proper calls. -/
theorem stores_agree {calls : List StoreCall} (hcalls : MemoryStore.empty.Proper calls) :
    Agree calls .empty .empty := by
  have hempty : PayoutTable.empty.Tracks .empty :=
    ⟨.empty, .refl _, rfl, fun _ hp => absurd hp List.not_mem_nil⟩
  exact hempty.agree hcalls

/-- The sample with a retry that is due, at times in whole milliseconds. -/
def Payout.sampleDue : Payout :=
  { Payout.sampleFailed with
    status := .retryScheduled
    nextRetryAt := some .epoch
    claimedAt := none
    createdAt := .epoch
    updatedAt := .epoch }

/-- Another payout for the same submission. -/
def Payout.sampleAgain : Payout :=
  { Payout.sampleDue with id := .ofDraw 8 }

def Payout.sampleClaimed : Payout :=
  { Payout.sampleDue with status := .processing, nextRetryAt := none }

/-- Calls that both stores answer alike. -/
def sampleCalls : List StoreCall :=
  [.create .sampleDue, .create .sampleAgain, .saveIf .sampleClaimed .retryScheduled,
    .list ⟨some .processing, none, none, none, none⟩]

theorem stores_agree_on_sampleCalls :
    MemoryStore.empty.Proper sampleCalls ∧ Agree sampleCalls .empty .empty := by
  have hwhole : ∀ p : Payout, p.amount.IsPositive → (∀ t ∈ p.times, t = .epoch) → p.IsWhole := by
    intro p hamount htimes
    refine ⟨hamount, fun t ht => ?_⟩
    obtain rfl := htimes t ht
    exact ⟨by decide, by decide⟩
  have hfree : Payout.sampleAgain.id ∉
      (MemoryStore.empty.create .sampleDue).2.rows.map Payout.id := by decide
  have hrow : Payout.sampleDue ∈
      ((MemoryStore.empty.create .sampleDue).2.create .sampleAgain).2.rows := by decide
  have hproper : MemoryStore.empty.Proper sampleCalls :=
    ⟨hwhole _ (by decide) (by decide), List.not_mem_nil, hwhole _ (by decide) (by decide), hfree,
      hwhole _ (by decide) (by decide), ⟨_, hrow, by constructor <;> rfl⟩, trivial, trivial,
      trivial⟩
  exact ⟨hproper, stores_agree hproper⟩

end Disburse
