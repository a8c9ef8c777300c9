import Disburse.Proofs.Store.Memory
import Disburse.Proofs.Store.Table

/-!
What a creation leaves of a store: one more row behind all others if identifier and submission are
unused, and otherwise an error and the rows as they were. The table keeps to this always. The
memory store looks for the submission only, so that it replaces a record whose identifier is taken
by a payout of another submission.
-/

namespace Disburse

/-- A creation adds its row, or it is refused and changes nothing. -/
inductive Created {ρ : Type} (rows : List ρ) (row : ρ) (free : Prop) (refusal : Error) :
    Except Error Unit → List ρ → Prop where
  | added (h : free) : Created rows row free refusal (.ok ()) (rows ++ [row])
  | refused (h : ¬ free) : Created rows row free refusal (.error refusal) rows

theorem Created.rows_eq {ρ : Type} {rows rows' : List ρ} {row : ρ} {free : Prop} {refusal : Error}
    {a : Except Error Unit} (h : Created rows row free refusal a rows') :
    rows' = rows ++ (a.toOption.map fun _ => row).toList := by
  cases h with
  | added _ => rfl
  | refused _ => exact (List.append_nil rows).symm

namespace PayoutTable

variable {t : PayoutTable} {p : Payout}

theorem create_of_not_isFree (h : ¬ t.IsFree p) : t.create p = (.error (taken p), t) := by
  rw [create, insert?]
  split_ifs with hid hsubmission
  · rfl
  · rfl
  · refine absurd ⟨hid, fun ref href hmem => hsubmission ⟨ref, hmem, href⟩⟩ h

theorem created (t : PayoutTable) (p : Payout) :
    Created t.rows (stored p) (t.IsFree p) (taken p) (t.create p).1 (t.create p).2.rows := by
  by_cases hfree : t.IsFree p
  · obtain ⟨t', hcreate, hrows⟩ := create_of_isFree hfree
    rw [hcreate, hrows]
    exact .added hfree
  · rw [create_of_not_isFree hfree]
    exact .refused hfree

end PayoutTable

namespace MemoryStore

variable {s : MemoryStore} {p : Payout}

/-- Neither the identifier nor the submission of a payout is in the store. -/
structure IsFree (s : MemoryStore) (p : Payout) : Prop where
  id : p.id ∉ s.rows.map Payout.id
  submission : ∀ ref ∈ p.submissionRef, ref ∉ s.rows.filterMap Payout.submissionRef

theorem rows_ne_append (s : MemoryStore) (p : Payout) (h : p.id ∈ s.rows.map Payout.id)
    (s' : MemoryStore) : s'.rows ≠ s.rows ++ [p] := by
  intro hrows
  have hnodup := s'.ids_nodup
  rw [hrows, List.map_append, List.nodup_append] at hnodup
  exact hnodup.2.2 _ h _ (List.mem_singleton_self _) rfl

/-- The memory store keeps to this if and only if a taken identifier comes with a taken
submission. -/
theorem created_iff (s : MemoryStore) (p : Payout) :
    Created s.rows p (s.IsFree p) (PayoutTable.taken p) (s.create p).1 (s.create p).2.rows ↔
      (p.id ∈ s.rows.map Payout.id →
        ∃ ref ∈ p.submissionRef, ref ∈ s.rows.filterMap Payout.submissionRef) := by
  by_cases hsubmission : ∃ ref ∈ p.submissionRef, ref ∈ s.rows.filterMap Payout.submissionRef
  · refine ⟨fun _ _ => hsubmission, fun _ => ?_⟩
    obtain ⟨ref, href, hmem⟩ := hsubmission
    rw [create_of_taken href hmem, show Error.submissionTaken ref = PayoutTable.taken p by
      rw [PayoutTable.taken, href]; rfl]
    exact .refused fun hfree => hfree.submission ref href hmem
  · have hunused : ∀ ref ∈ p.submissionRef, ref ∉ s.rows.filterMap Payout.submissionRef :=
      fun ref href hmem => hsubmission ⟨ref, href, hmem⟩
    rw [create_of_free hunused]
    constructor
    · intro h hid
      generalize hrows : (s.insert p).rows = rows at h
      cases h with
      | added _ => exact absurd hrows (rows_ne_append s p hid _)
    · intro h
      have hid : p.id ∉ s.rows.map Payout.id := fun hid => hsubmission (h hid)
      rw [rows_insert hid]
      exact .added ⟨hid, hunused⟩

end MemoryStore

end Disburse
