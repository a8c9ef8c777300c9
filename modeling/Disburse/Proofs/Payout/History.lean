import Disburse.Proofs.Payout.Legal

/-!
How one version of a record may follow another. A single write follows one of the edges between
the states; over any number of writes a record keeps its origin and the time of its claim, and a
completed record keeps everything.
-/

namespace Disburse

/-- The states that may follow a state in the history of a record. -/
def Status.successors : Status → List Status
  | .pending => [.processing]
  | .processing => [.processing, .completed, .retryScheduled, .failed]
  | .retryScheduled => [.processing, .completed]
  | .failed => [.processing, .completed]
  | .completed => []

namespace Payout

/-- Two versions of a record agree on what was known when it was created. -/
structure SameOrigin (p q : Payout) : Prop where
  id : q.id = p.id
  recipient : q.recipient = p.recipient
  amount : q.amount = p.amount
  asset : q.asset = p.asset
  kind : q.kind = p.kind
  questRef : q.questRef = p.questRef
  submissionRef : q.submissionRef = p.submissionRef
  createdAt : q.createdAt = p.createdAt

/-- One version of a record may be the next one after another. -/
structure FollowedBy (p q : Payout) : Prop where
  status : q.status ∈ p.status.successors
  /-- A processing record that stays processing has its hash stored. -/
  checkpoint : p.status = .processing → q.status = .processing → q.submittedHash.isSome
  origin : p.SameOrigin q
  claimedAt : p.claimedAt.isSome → q.claimedAt = p.claimedAt

/-- One version of a record may come some time after another. -/
structure LeadsTo (p q : Payout) : Prop where
  origin : p.SameOrigin q
  claimedAt : p.claimedAt.isSome → q.claimedAt = p.claimedAt
  completed : p.status = .completed → q = p
  pending : q.status = .pending → q = p

variable {p q r : Payout}

theorem SameOrigin.refl (p : Payout) : p.SameOrigin p := by
  constructor <;> rfl

theorem SameOrigin.trans (h : p.SameOrigin q) (h' : q.SameOrigin r) : p.SameOrigin r where
  id := h'.id.trans h.id
  recipient := h'.recipient.trans h.recipient
  amount := h'.amount.trans h.amount
  asset := h'.asset.trans h.asset
  kind := h'.kind.trans h.kind
  questRef := h'.questRef.trans h.questRef
  submissionRef := h'.submissionRef.trans h.submissionRef
  createdAt := h'.createdAt.trans h.createdAt

theorem SameOrigin.symm (h : p.SameOrigin q) : q.SameOrigin p where
  id := h.id.symm
  recipient := h.recipient.symm
  amount := h.amount.symm
  asset := h.asset.symm
  kind := h.kind.symm
  questRef := h.questRef.symm
  submissionRef := h.submissionRef.symm
  createdAt := h.createdAt.symm

theorem LeadsTo.refl (p : Payout) : p.LeadsTo p where
  origin := .refl p
  claimedAt _ := rfl
  completed _ := rfl
  pending _ := rfl

theorem LeadsTo.trans (h : p.LeadsTo q) (h' : q.LeadsTo r) : p.LeadsTo r where
  origin := h.origin.trans h'.origin
  claimedAt hp := by
    have hq := h.claimedAt hp
    exact (h'.claimedAt (hq ▸ hp)).trans hq
  completed hp := by
    have hq := h.completed hp
    exact (h'.completed (hq ▸ hp)).trans hq
  pending hr := by
    have hq := h'.pending hr
    exact hq.trans (h.pending (hq ▸ hr))

theorem FollowedBy.leadsTo (h : p.FollowedBy q) : p.LeadsTo q where
  origin := h.origin
  claimedAt := h.claimedAt
  completed hp := by
    have := h.status
    simp [hp, Status.successors] at this
  pending hq := by
    have := h.status
    cases hp : p.status <;> simp [hp, hq, Status.successors] at this

end Payout

namespace Transition

variable {T : Transition} {p q : Payout}

theorem sameOrigin_apply (hq : T.apply p = some q) : p.SameOrigin q := by
  cases makes_of_apply hq <;> constructor <;> rfl

theorem sameOrigin_of_markClaimed {now : Instant} (hq : p.markClaimed now = .ok q) :
    p.SameOrigin q := by
  obtain ⟨-, rfl⟩ := Payout.markClaimed_eq_ok hq
  constructor <;> rfl

theorem claimedAt_apply (hfrom : T.StartsFrom p.status) (hstatus : p.status ≠ .pending)
    (hq : T.apply p = some q) : q.claimedAt = p.claimedAt := by
  cases makes_of_apply hq with
  | claim => exact absurd hfrom hstatus
  | submission | completion | retry | failure | requeue | reset => rfl

theorem status_apply (hfrom : T.StartsFrom p.status) (hq : T.apply p = some q) :
    q.status ∈ p.status.successors := by
  cases makes_of_apply hq with
  | claim hstatus | requeue hstatus | reset hstatus => simp [hstatus, Status.successors]
  | submission =>
      have hstatus : p.status = .processing := hfrom
      simp [Payout.markSubmitted, hstatus, Status.successors]
  | completion =>
      rcases hfrom with hstatus | hstatus | hstatus <;>
        simp [Payout.markCompleted, hstatus, Status.successors]
  | retry | failure =>
      have hstatus : p.status = .processing := hfrom
      simp [hstatus, Status.successors]

theorem submittedHash_apply (hfrom : T.StartsFrom p.status) (hq : T.apply p = some q)
    (hp : p.status = .processing) (hq' : q.status = .processing) : q.submittedHash.isSome := by
  cases makes_of_apply hq with
  | submission => rfl
  | claim | requeue | reset => exact absurd (hp.symm.trans hfrom) (by decide)
  | completion | retry | failure => cases hq'

/-- A transition applied to an earlier version of a record still follows the version that it
replaces, if that one is legal and in the same state. -/
theorem followedBy_apply {row : Payout} (hp : p.Legal) (hrow : row.Legal) (hlead : p.LeadsTo row)
    (hstatus : row.status = p.status) (hfrom : T.StartsFrom p.status)
    (hq : T.apply p = some q) : row.FollowedBy q where
  status := hstatus ▸ status_apply hfrom hq
  checkpoint hrow' := submittedHash_apply hfrom hq (hstatus ▸ hrow')
  origin := hlead.origin.symm.trans (sameOrigin_apply hq)
  claimedAt hclaimed := by
    have hpending : p.status ≠ .pending := by
      intro hpending
      rw [hrow.claimedAt_eq_none.mpr (hstatus.trans hpending)] at hclaimed
      cases hclaimed
    have hsome : p.claimedAt.isSome := by
      rw [Option.isSome_iff_ne_none]
      exact fun hnone => hpending (hp.claimedAt_eq_none.mp hnone)
    rw [claimedAt_apply hfrom hpending hq, hlead.claimedAt hsome]

end Transition

end Disburse
