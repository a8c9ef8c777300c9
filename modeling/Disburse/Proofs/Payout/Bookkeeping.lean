import Disburse.Outcome
import Disburse.Proofs.Payout.History

/-!
The books of one record, whatever its fields hold, under any transitions in any order: what it
keeps for good, when its failures are within its maximum, and which transitions it refuses.
-/

namespace Disburse

/-- One version of a record keeps what an earlier one had for good. -/
structure Payout.KeptBy (p q : Payout) : Prop where
  origin : p.SameOrigin q
  claimedAt : p.claimedAt.isSome → q.claimedAt = p.claimedAt
  processedAt : p.processedAt.isSome → q.processedAt = p.processedAt
  retryCount_le : p.retryCount ≤ p.maxRetries → q.retryCount ≤ q.maxRetries

/-- A record after one more failure: the failure is counted up to the maximum, and a retry has a
date exactly if the count stays below it. -/
structure Payout.FailsInto (p q : Payout) : Prop where
  maxRetries : q.maxRetries = p.maxRetries
  retryCount : q.retryCount.toNat = min (p.retryCount.toNat + 1) p.maxRetries.toNat
  submittedHash : q.submittedHash = none
  waits_iff : q.status = .retryScheduled ∧ q.nextRetryAt.isSome ↔ q.retryCount < q.maxRetries
  fails : ¬ q.retryCount < q.maxRetries → q.status = .failed ∧ q.nextRetryAt = none

namespace Payout

variable {p q r : Payout}

theorem KeptBy.refl (p : Payout) : p.KeptBy p where
  origin := .refl p
  claimedAt _ := rfl
  processedAt _ := rfl
  retryCount_le h := h

theorem KeptBy.trans (h : p.KeptBy q) (h' : q.KeptBy r) : p.KeptBy r where
  origin := h.origin.trans h'.origin
  claimedAt hp := by
    have hq := h.claimedAt hp
    exact (h'.claimedAt (hq ▸ hp)).trans hq
  processedAt hp := by
    have hq := h.processedAt hp
    exact (h'.processedAt (hq ▸ hp)).trans hq
  retryCount_le hp := h'.retryCount_le (h.retryCount_le hp)

theorem failsInto_recordFailure? {reason : String} {policy : RetryPolicy} {now : Instant}
    (h : p.recordFailure? reason policy now = some q) : p.FailsInto q := by
  obtain ⟨count, hcount, ⟨hlt, due, rfl⟩ | ⟨hlt, rfl⟩⟩ := recordFailure?_eq_some h
  · exact
      { maxRetries := rfl
        retryCount := countFailure?_eq_some hcount
        submittedHash := rfl
        waits_iff := iff_of_true ⟨rfl, rfl⟩ hlt
        fails := absurd hlt }
  · exact
      { maxRetries := rfl
        retryCount := countFailure?_eq_some hcount
        submittedHash := rfl
        waits_iff := iff_of_false (fun h => nomatch h.1) hlt
        fails := fun _ => ⟨rfl, rfl⟩ }

theorem FailsInto.retryCount_le (h : p.FailsInto q) : q.retryCount ≤ q.maxRetries := by
  rw [UInt32.le_iff_toNat_le, h.retryCount, h.maxRetries]
  exact Nat.min_le_right ..

end Payout

namespace Transition

/-- The records that a transition applies to. Half of the transitions apply to every record. -/
def Admits : Transition → Payout → Prop
  | .claim _, p => p.status = .pending ∧ p.claimedAt = none
  | .requeue _, p => p.status = .retryScheduled
  | .reset .., p => p.status = .failed
  | .submission .., _ => True
  | .completion .., _ => True
  | .failure .., _ => True

/-- A failure that cannot be counted, or one whose retry cannot be dated. -/
def Overflows : Transition → Payout → Prop
  | .failure _ policy now, p =>
    p.retryCount.toNat + 1 = UInt32.size ∨
      p.retryCount + 1 < p.maxRetries ∧
        ∀ delay, policy.backoff? (p.retryCount + 1) = some delay →
          ∀ due, now.add? delay ≠ some due
  | _, _ => False

/-- The transitions that write the count of failures. -/
def Counts : Transition → Prop
  | .failure .. => True
  | .reset .. => True
  | _ => False

/-- What a record answers to a transition: the next version of it, an error, or a crash. -/
def perform : Transition → Payout → Outcome Payout
  | .claim now, p => .ofExcept (p.markClaimed now)
  | .submission hash now, p => .ok (p.markSubmitted hash now)
  | .completion transactionRef ledgerRef now, p =>
    .ok (p.markCompleted transactionRef ledgerRef now)
  | .failure reason policy now, p => .ofInRange (p.recordFailure? reason policy now)
  | .requeue now, p => .ofExcept (p.requeue now)
  | .reset defaultMaxRetries now, p => .ofExcept (p.resetForRetry defaultMaxRetries now)

/-- The three ways in which a record answers a transition. -/
inductive Answers (T : Transition) (p : Payout) : Outcome Payout → Prop where
  | made {q : Payout} (applies : T.apply p = some q) (admits : T.Admits p)
      (inRange : ¬ T.Overflows p) : Answers T p (.ok q)
  | refused (reason : String) (admits : ¬ T.Admits p) (inRange : ¬ T.Overflows p) :
      Answers T p (.error (.error (p.invalidState reason)))
  | crashed (overflows : T.Overflows p) : Answers T p (.error .crash)

variable {T : Transition} {p q : Payout}

theorem overflows_failure_iff {reason : String} {policy : RetryPolicy} {now : Instant} :
    (failure reason policy now).Overflows p ↔ p.recordFailure? reason policy now = none := by
  by_cases hrange : p.retryCount.toNat + 1 < UInt32.size
  · obtain ⟨count, hcount⟩ : ∃ count, p.countFailure? = some count :=
      ⟨_, Payout.countFailure?_of_lt hrange⟩
    have hmin := Payout.countFailure?_eq_some hcount
    have hnext := Payout.toNat_retryCount_succ hrange
    simp only [Overflows, Nat.ne_of_lt hrange, false_or, Payout.recordFailure?, hcount,
      Option.bind_eq_bind, Option.bind_some, Option.pure_def]
    -- The capped count is below the maximum where the next count is, and there they are the same.
    by_cases hroom : p.retryCount + 1 < p.maxRetries
    · have hcounted : count = p.retryCount + 1 := by
        rw [UInt32.lt_iff_toNat_lt] at hroom
        apply UInt32.toNat_inj.mp
        omega
      simp [hcounted, hroom, Option.bind_eq_none_iff]
    · have hfull : ¬ count < p.maxRetries := by
        rw [UInt32.lt_iff_toNat_lt] at hroom ⊢
        omega
      simp [hroom, hfull]
  · have hfull : p.retryCount.toNat + 1 = UInt32.size :=
      Nat.le_antisymm p.retryCount.toNat_lt_size (Nat.not_lt.mp hrange)
    have hcount : p.countFailure? = none := by
      simp only [Payout.countFailure?, Payout.attempt?, if_neg hrange, Option.map_none]
    exact iff_of_true (.inl hfull) (by simp [Payout.recordFailure?, hcount])

theorem answers_of_guard {guard : Prop} [Decidable guard] {result : Except Error Payout}
    {reason : String} (hadmits : guard ↔ T.Admits p)
    (hresult : result = if guard then .ok q else .error (p.invalidState reason))
    (hperform : T.perform p = .ofExcept result) (happly : T.apply p = result.toOption)
    (hrange : ¬ T.Overflows p) : T.Answers p (T.perform p) := by
  subst hresult
  rw [hperform]
  by_cases hguard : guard
  · rw [if_pos hguard] at happly ⊢
    exact .made happly (hadmits.mp hguard) hrange
  · rw [if_neg hguard]
    exact .refused reason (hguard ∘ hadmits.mpr) hrange

theorem answers_perform (T : Transition) (p : Payout) : T.Answers p (T.perform p) := by
  cases T with
  | claim now => exact answers_of_guard Payout.isClaimable_iff rfl rfl rfl id
  | submission hash now => exact .made rfl trivial id
  | completion transactionRef ledgerRef now => exact .made rfl trivial id
  | failure reason policy now =>
      have hperform : (failure reason policy now).perform p =
        .ofInRange (p.recordFailure? reason policy now) := rfl
      rw [hperform]
      cases hfailed : p.recordFailure? reason policy now with
      | none => exact .crashed (overflows_failure_iff.mpr hfailed)
      | some failed =>
          refine .made hfailed trivial fun hoverflows => ?_
          cases (overflows_failure_iff.mp hoverflows).symm.trans hfailed
  | requeue now => exact answers_of_guard (Iff.refl (p.status = .retryScheduled)) rfl rfl rfl id
  | reset defaultMaxRetries now =>
      exact answers_of_guard (Iff.refl (p.status = .failed)) rfl rfl rfl id

theorem retryCount_le_apply_iff (h : T.apply p = some q) :
    q.retryCount ≤ q.maxRetries ↔ p.retryCount ≤ p.maxRetries ∨ T.Counts := by
  cases makes_of_apply h with
  | claim | submission | completion | requeue => exact (or_iff_left id).symm
  | retry | failure =>
      exact iff_of_true (Payout.failsInto_recordFailure? h).retryCount_le (.inr trivial)
  | reset => exact iff_of_true (UInt32.le_iff_toNat_le.mpr (Nat.zero_le _)) (.inr trivial)

theorem keptBy_apply (h : T.apply p = some q) : p.KeptBy q := by
  have horigin := sameOrigin_apply h
  have hle := (retryCount_le_apply_iff h).mpr ∘ .inl
  cases makes_of_apply h with
  | claim hpending hunclaimed =>
      refine ⟨horigin, fun hclaimed => ?_, fun _ => rfl, hle⟩
      rw [hunclaimed] at hclaimed
      cases hclaimed
  | completion =>
      refine ⟨horigin, fun _ => rfl, fun hprocessed => ?_, hle⟩
      obtain ⟨first, hfirst⟩ := Option.isSome_iff_exists.mp hprocessed
      rw [Payout.markCompleted, hfirst, Option.getD_some]
  | submission | retry | failure | requeue | reset =>
      exact ⟨horigin, fun _ => rfl, fun _ => rfl, hle⟩

end Transition

namespace Payout

/-- One transition that was asked of a record, and what came of it. -/
structure Entry where
  transition : Transition
  before : Payout
  /-- The error with which the transition was refused. -/
  refusal : Option Error
  after : Payout

end Payout

/-- The entry of a transition, unless it crashes. A record that refuses a transition stays as it
is. -/
def Transition.entry? (T : Transition) (p : Payout) : Option Payout.Entry :=
  match T.perform p with
  | .ok q => some ⟨T, p, none, q⟩
  | .error (.error e) => some ⟨T, p, some e, p⟩
  | .error .crash => none

namespace Payout

/-- The entries of transitions one after the other, up to the first that crashes. -/
def journal (p : Payout) : List Transition → List Entry
  | [] => []
  | T :: rest =>
    match T.entry? p with
    | some e => e :: e.after.journal rest
    | none => []

/-- The last version in a journal that starts with a record. -/
def latest (p : Payout) : List Entry → Payout
  | [] => p
  | e :: rest => e.after.latest rest

/-- What holds of one entry in the journal of any record. -/
structure Entry.Lawful (e : Entry) : Prop where
  refused_iff : e.refusal.isSome ↔ ¬ e.transition.Admits e.before
  refusal : ∀ error, e.refusal = some error →
    e.after = e.before ∧ ∃ reason, error = e.before.invalidState reason
  inRange : ¬ e.transition.Overflows e.before
  retryCount_le_iff : e.after.retryCount ≤ e.after.maxRetries ↔
    e.before.retryCount ≤ e.before.maxRetries ∨ e.transition.Counts ∧ e.refusal = none
  failure : ∀ reason policy now, e.transition = .failure reason policy now →
    e.before.FailsInto e.after
  completion : ∀ transactionRef ledgerRef now,
    e.transition = .completion transactionRef ledgerRef now → e.after.submittedHash = none

/-- A journal of the transitions that were asked of a record: each entry begins where the one
before it ended, only a transition out of range has no entry, and no version takes back what an
earlier one had for good. -/
structure Bookkeeping (p : Payout) (asked : List Transition) (journal : List Entry) : Prop where
  linked : journal.map Entry.before ++ [p.latest journal] = p :: journal.map Entry.after
  complete : ∃ rest, asked = journal.map Entry.transition ++ rest ∧
    ∀ T ∈ rest.head?, T.Overflows (p.latest journal)
  lawful : ∀ e ∈ journal, e.Lawful
  kept : (p :: journal.map Entry.after).Pairwise KeptBy

variable {p q : Payout} {e : Entry} {T : Transition} {rest : List Transition}
  {journal : List Entry}

theorem Entry.lawful_made (happlies : T.apply p = some q) (hadmits : T.Admits p)
    (hrange : ¬ T.Overflows p) : Entry.Lawful ⟨T, p, none, q⟩ where
  refused_iff := iff_of_false nofun fun h => h hadmits
  refusal := nofun
  inRange := hrange
  retryCount_le_iff := by
    rw [Transition.retryCount_le_apply_iff happlies]
    exact or_congr_right (and_iff_left rfl).symm
  failure := by
    rintro reason policy now rfl
    exact failsInto_recordFailure? happlies
  completion := by
    rintro transactionRef ledgerRef now rfl
    exact Option.some.inj happlies ▸ rfl

theorem Entry.lawful_refused {reason : String} (hadmits : ¬ T.Admits p)
    (hrange : ¬ T.Overflows p) : Entry.Lawful ⟨T, p, some (p.invalidState reason), p⟩ where
  refused_iff := iff_of_true rfl hadmits
  refusal error herror := ⟨rfl, reason, (Option.some.inj herror).symm⟩
  inRange := hrange
  retryCount_le_iff := (or_iff_left fun h => nomatch h.2).symm
  failure := by
    rintro _ policy now rfl
    exact absurd trivial hadmits
  completion := by
    rintro transactionRef ledgerRef now rfl
    exact absurd trivial hadmits

theorem entry?_eq_some (h : T.entry? p = some e) :
    e.transition = T ∧ e.before = p ∧ e.Lawful ∧ p.KeptBy e.after := by
  have hanswers := T.answers_perform p
  unfold Transition.entry? at h
  generalize T.perform p = outcome at h hanswers
  cases hanswers with
  | made happlies hadmits hrange =>
      obtain rfl := Option.some.inj h
      exact ⟨rfl, rfl, Entry.lawful_made happlies hadmits hrange,
        Transition.keptBy_apply happlies⟩
  | refused reason hadmits hrange =>
      obtain rfl := Option.some.inj h
      exact ⟨rfl, rfl, Entry.lawful_refused hadmits hrange, .refl p⟩
  | crashed hoverflows => cases h

theorem overflows_of_entry? (h : T.entry? p = none) : T.Overflows p := by
  have hanswers := T.answers_perform p
  unfold Transition.entry? at h
  generalize T.perform p = outcome at h hanswers
  cases hanswers with
  | crashed hoverflows => exact hoverflows
  | made | refused => cases h

theorem Bookkeeping.nil (p : Payout) : p.Bookkeeping [] [] where
  linked := rfl
  complete := ⟨[], rfl, fun _ hhead => nomatch hhead⟩
  lawful := List.forall_mem_nil _
  kept := List.pairwise_singleton _ _

theorem Bookkeeping.crash (h : T.entry? p = none) : p.Bookkeeping (T :: rest) [] where
  linked := rfl
  complete := ⟨T :: rest, rfl, fun _ hhead => Option.some.inj hhead ▸ overflows_of_entry? h⟩
  lawful := List.forall_mem_nil _
  kept := List.pairwise_singleton _ _

theorem Bookkeeping.cons (h : T.entry? p = some e) (hrest : e.after.Bookkeeping rest journal) :
    p.Bookkeeping (T :: rest) (e :: journal) := by
  obtain ⟨rfl, rfl, hlawful, hkept⟩ := entry?_eq_some h
  obtain ⟨left, hasked, hend⟩ := hrest.complete
  refine ⟨?_, ⟨left, ?_, hend⟩, ?_, ?_⟩
  · exact congrArg (e.before :: ·) hrest.linked
  · exact congrArg (e.transition :: ·) hasked
  · exact List.forall_mem_cons.mpr ⟨hlawful, hrest.lawful⟩
  · -- What the next version keeps is kept by all later ones, so only one step is to be added.
    refine List.pairwise_cons.mpr ⟨fun q hq => ?_, hrest.kept⟩
    rcases List.mem_cons.mp hq with rfl | hq
    · exact hkept
    · exact hkept.trans (List.rel_of_pairwise_cons hrest.kept hq)

/-- The books of a record are in order whatever its fields hold, and whatever is asked of it. -/
theorem bookkeeping_journal (p : Payout) (asked : List Transition) :
    p.Bookkeeping asked (p.journal asked) := by
  fun_induction journal p asked with
  | case1 p => exact .nil p
  | case2 p T rest e hentry ih => exact .cons hentry ih
  | case3 p T rest hentry => exact .crash hentry

/-- A completed payout that nobody has claimed, that still waits for a retry, and that has failed
more often than it may. -/
def sampleOverdrawn : Payout where
  id := .ofDraw 9
  recipient := "GDEST"
  amount := ⟨true, 5, 0, by decide, by decide⟩
  asset := "USDC"
  status := .completed
  kind := .bonus
  questRef := none
  submissionRef := none
  submittedHash := some "h0"
  transactionRef := none
  ledgerRef := none
  failureReason := none
  retryCount := 9
  maxRetries := 2
  nextRetryAt := some .epoch
  processedAt := some .epoch
  claimedAt := none
  createdAt := .epoch
  updatedAt := .epoch

/-- Two nanoseconds after the sample was completed. -/
def sampleSince : Instant :=
  { Instant.epoch with nanos := 2, nanos_lt := by decide, leap := by decide }

/-- The last failure finds no date for its retry, and the transition after it is not made. -/
def sampleAsked : List Transition :=
  [.claim sampleSince, .reset 3 sampleSince, .failure "down" ⟨⟨0⟩, 3⟩ sampleSince,
    .reset 3 sampleSince, .submission "h1" sampleSince, .failure "down" ⟨⟨0⟩, 3⟩ sampleSince,
    .completion "h2" 7 sampleSince, .requeue sampleSince,
    .failure "down" ⟨⟨1000000000000000000000000000000⟩, 3⟩ sampleSince, .claim sampleSince]

theorem bookkeeping_sampleOverdrawn :
    (sampleOverdrawn.journal sampleAsked).map
        (fun e => (e.refusal.isSome, e.after.status, e.after.retryCount, e.after.processedAt)) =
      [(true, .completed, 9, some .epoch), (true, .completed, 9, some .epoch),
        (false, .failed, 2, some .epoch), (false, .processing, 0, some .epoch),
        (false, .processing, 0, some .epoch), (false, .retryScheduled, 1, some .epoch),
        (false, .completed, 1, some .epoch), (true, .completed, 1, some .epoch)] ∧
      sampleOverdrawn.Bookkeeping sampleAsked (sampleOverdrawn.journal sampleAsked) := by
  constructor
  · decide +kernel
  · exact bookkeeping_journal sampleOverdrawn sampleAsked

end Payout

end Disburse
