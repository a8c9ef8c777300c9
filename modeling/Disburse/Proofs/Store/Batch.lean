import Disburse.Proofs.Store.Agreement

/-!
What a batch is: as many of the records that pass a test as the limit allows, those of the earliest
times, and in the order of these times. Among records of one time the choice is free.
-/

namespace Disburse

namespace Payout

/-- Some of the rows that pass a test, the first ones in the order of a key, up to a limit. -/
structure IsBatch (key : Payout → Option Instant) (test : Payout → Bool) (limit : UInt32)
    (rows ps : List Payout) : Prop where
  mem : ∀ p ∈ ps, p ∈ rows ∧ test p = true
  ids_nodup : (ps.map Payout.id).Nodup
  sorted : ps.Pairwise fun p q => Instant.earlier (key p) (key q) = true
  length : ps.length = min limit.toNat (rows.countP test)
  /-- No record that is left out comes before one that is chosen. -/
  first : ∀ p ∈ ps, ∀ q ∈ rows, test q = true → q ∉ ps → Instant.earlier (key p) (key q) = true

variable {key : Payout → Option Instant} {test : Payout → Bool} {limit : UInt32}
  {rows rows' : List Payout}

/-- The order of the rows decides only among records of one time. -/
theorem isBatch_of_perm (hids : (rows.map Payout.id).Nodup) (hperm : rows'.Perm rows) :
    IsBatch key test limit rows (batch key test limit rows') := by
  let sorted := (rows'.filter test).mergeSort fun p q => Instant.earlier (key p) (key q)
  have hsorted : sorted.Pairwise fun p q => Instant.earlier (key p) (key q) = true :=
    List.pairwise_mergeSort (fun p q r => Instant.earlier_trans (key p) (key q) (key r))
      (fun p q => Instant.earlier_total (key p) (key q)) (rows'.filter test)
  have hsorted_perm : sorted.Perm (rows.filter test) :=
    (List.mergeSort_perm ..).trans (hperm.filter test)
  have hmem : ∀ p, p ∈ sorted ↔ p ∈ rows ∧ test p = true := by
    intro p
    rw [hsorted_perm.mem_iff, List.mem_filter]
  constructor
  · intro p hp
    exact (hmem p).mp (List.mem_of_mem_take hp)
  · have hnodup : (sorted.map Payout.id).Nodup := by
      rw [(hsorted_perm.map Payout.id).nodup_iff]
      exact hids.sublist (List.filter_sublist.map Payout.id)
    exact hnodup.sublist ((List.take_sublist ..).map Payout.id)
  · exact hsorted.sublist (List.take_sublist ..)
  · rw [batch, List.length_take, hsorted_perm.length_eq, List.countP_eq_length_filter]
  · intro p hp q hq htest hout
    rw [← List.take_append_drop limit.toNat sorted, List.pairwise_append] at hsorted
    have hq' := (hmem q).mpr ⟨hq, htest⟩
    rw [← List.take_append_drop limit.toNat sorted, List.mem_append] at hq'
    rcases hq' with hin | hdropped
    · exact absurd hin hout
    · exact hsorted.2.2 p hp q hdropped

/-- Not touched since a time, and still in processing. -/
def isStale (before : Instant) (p : Payout) : Bool :=
  p.status = .processing && p.updatedAt.blt before

/-- Waiting for a retry whose time has come. -/
def isDue (now : Instant) (p : Payout) : Bool :=
  p.status = .retryScheduled && p.nextRetryAt.any (·.ble now)

end Payout

namespace MemoryStore

variable {s s' : MemoryStore}

theorem isBatch_findStale (h : s'.rows.Perm s.rows) (before : Instant) (limit : UInt32) :
    Payout.IsBatch (fun p => some p.updatedAt) (Payout.isStale before) limit s.rows
      (s'.findStale .processing before limit) :=
  Payout.isBatch_of_perm s.ids_nodup h

theorem isBatch_findDue (h : s'.rows.Perm s.rows) (now : Instant) (limit : UInt32) :
    Payout.IsBatch Payout.nextRetryAt (Payout.isDue now) limit s.rows
      (s'.findDue .retryScheduled now limit) :=
  Payout.isBatch_of_perm s.ids_nodup h

end MemoryStore

end Disburse
