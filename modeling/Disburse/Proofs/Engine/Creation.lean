import Disburse.Engine.Service
import Disburse.Proofs.Engine.Calm
import Disburse.Proofs.Engine.Interleaving
import Disburse.Proofs.Store.Creation

/-!
Creations one after the other. Each of them adds the payout that it returns behind all others, or
returns an error and leaves the store as it was. The table refuses an identifier that it has
already; the memory store relies on fresh identifiers not to lose a record.
-/

namespace Disburse.Engine

open Disburse.Task

/-- Create payouts, whatever becomes of those before. -/
def createAll (policy : RetryPolicy) : List NewPayout → Work (List (Except Error Payout))
  | [] => return []
  | new :: news => do
    let result ← Task.attempt (createPayout policy new)
    return result :: (← createAll policy news)

/-- The payouts that were returned. -/
def returned (results : List (Except Error Payout)) : List Payout :=
  results.filterMap Except.toOption

/-- The identifiers that were drawn. -/
def drawnIn (past : List (Exchange interface)) : List PayoutId :=
  past.flatMap fun x => Shared.drawnBy x.request x.answer

@[simp] theorem drawnIn_append (xs ys : List (Exchange interface)) :
    drawnIn (xs ++ ys) = drawnIn xs ++ drawnIn ys :=
  List.flatMap_append

/-- What the store makes of a creation, told to the one who asked for it. -/
def creationResult (p : Payout) : Except Error Unit → Except Error Payout
  | .ok _ => .ok p
  | .error e => .error e

section

variable {S ω ρ : Type} {respond : S → (c : StoreCall) → c.Answer × S}
  {rest : Surroundings interface ω} {past : List (Exchange interface)} {s : S} {w : ω}

theorem ends_createPayout (hclock : ∀ w, 0 ≤ (rest .now w).1.seconds) (policy : RetryPolicy)
    (new : NewPayout) :
    (createPayout policy new).Ends (beside respond rest) (fun o u past' =>
      (∃ e, o = .error (.error e) ∧ u.1 = s ∧ past' = past) ∨
      ∃ p now, o = .ofExcept (creationResult p (respond s (.create p)).1) ∧
        u.1 = (respond s (.create p)).2 ∧
        past' = past ++ [⟨.freshId, p.id⟩, ⟨.now, now⟩,
          ⟨.store (.create p), (respond s (.create p)).1⟩]) (s, w) past := by
  unfold createPayout
  rw [ends_bind, ends_ofOutcome]
  cases new.validate with
  | error e => exact .inl ⟨e, rfl, rfl, rfl⟩
  | ok _ =>
      have hnow :
          0 ≤ (beside respond rest .now (beside respond rest .freshId (s, w)).2).1.seconds :=
        hclock _
      dsimp only [Outcome.ofExcept]
      rw [ends_bind, ends_freshId]
      dsimp only
      rw [ends_bind, ends_now_of_nonneg hnow]
      dsimp only
      rw [ends_bind, ends_store]
      dsimp only [beside]
      generalize hp : Payout.ofNew new _ _ _ = p
      have hid : (rest .freshId w).1 = p.id := by
        rw [← hp]
        rfl
      rw [hid]
      cases ha : (respond s (.create p)).1 with
      | error e =>
          refine .inr ⟨p, (rest .now (rest .freshId w).2).1, ?_, rfl, ?_⟩
          · rw [ha]
            rfl
          · simp [ha]
      | ok _ =>
          rw [ends_pure]
          refine .inr ⟨p, (rest .now (rest .freshId w).2).1, ?_, rfl, ?_⟩
          · rw [ha]
            rfl
          · simp [ha]

/-- A kind of store in which a creation adds its row or leaves the rows as they are, while `Fit`
says so of the store and the identifiers that are still to be drawn. -/
structure KeepsRows (respond : S → (c : StoreCall) → c.Answer × S) (rows : S → List ρ)
    (row : Payout → ρ) (Fit : S → List PayoutId → Prop) : Prop where
  rows_create : ∀ s p ids, Fit s (p.id :: ids) → rows (respond s (.create p)).2 =
    rows s ++ ((respond s (.create p)).1.toOption.map fun _ => row p).toList
  fit_create : ∀ s p ids, Fit s (p.id :: ids) → Fit (respond s (.create p)).2 ids

variable {rows : S → List ρ} {row : Payout → ρ} {Fit : S → List PayoutId → Prop}

theorem KeepsRows.ends_attempt_createPayout (h : KeepsRows respond rows row Fit)
    (hclock : ∀ w, 0 ≤ (rest .now w).1.seconds) (policy : RetryPolicy) (new : NewPayout) :
    (Task.attempt (createPayout policy new)).Ends (beside respond rest) (fun o u past' =>
      ∃ result xs, o = .ok result ∧ past' = past ++ xs ∧
        ∀ ids, Fit s (drawnIn xs ++ ids) →
          rows u.1 = rows s ++ (returned [result]).map row ∧ Fit u.1 ids) (s, w) past := by
  rw [ends_attempt]
  refine (ends_createPayout hclock policy new).imp ?_
  rintro o ⟨s', w'⟩ past' (⟨e, rfl, rfl, rfl⟩ | ⟨p, now, rfl, rfl, rfl⟩)
  · refine ⟨.error e, [], rfl, (List.append_nil _).symm, ?_⟩
    intro ids hfit
    exact ⟨(List.append_nil _).symm, hfit⟩
  · have hcreate : ∀ result, result = creationResult p (respond s (.create p)).1 →
        ∀ ids, Fit s (p.id :: ids) →
          rows (respond s (.create p)).2 = rows s ++ (returned [result]).map row ∧
            Fit (respond s (.create p)).2 ids := by
      rintro result rfl ids hfit
      refine ⟨?_, h.fit_create s p ids hfit⟩
      rw [h.rows_create s p ids hfit]
      cases (respond s (.create p)).1 <;> rfl
    cases ha : (respond s (.create p)).1 with
    | error e => exact ⟨.error e, _, rfl, rfl, hcreate _ (by rw [ha]; rfl)⟩
    | ok _ => exact ⟨.ok p, _, rfl, rfl, hcreate _ (by rw [ha]; rfl)⟩

theorem KeepsRows.ends_createAll (h : KeepsRows respond rows row Fit)
    (hclock : ∀ w, 0 ≤ (rest .now w).1.seconds) (policy : RetryPolicy) (news : List NewPayout) :
    (createAll policy news).Ends (beside respond rest) (fun o u past' =>
      ∃ results xs, o = .ok results ∧ past' = past ++ xs ∧
        (Fit s (drawnIn xs) → rows u.1 = rows s ++ (returned results).map row)) (s, w) past := by
  induction news generalizing s w past with
  | nil => exact ends_pure.mpr ⟨[], [], rfl, (List.append_nil _).symm,
      fun _ => (List.append_nil _).symm⟩
  | cons new news ih =>
      unfold createAll
      rw [ends_bind]
      refine (h.ends_attempt_createPayout hclock policy new).imp ?_
      rintro o ⟨s₁, w₁⟩ past₁ ⟨result, xs₁, rfl, rfl, hfirst⟩
      dsimp only
      rw [ends_bind]
      refine ih.imp ?_
      rintro o u past₂ ⟨results, xs₂, rfl, rfl, hlater⟩
      dsimp only
      rw [ends_pure]
      refine ⟨result :: results, xs₁ ++ xs₂, rfl, by simp, fun hfit => ?_⟩
      rw [drawnIn_append] at hfit
      obtain ⟨hrows, hfit₁⟩ := hfirst _ hfit
      have hcons : returned (result :: results) = returned [result] ++ returned results :=
        List.filterMap_append (l := [result])
      rw [hlater hfit₁, hrows, hcons, List.map_append, List.append_assoc]

end

theorem keepsRows_table : KeepsRows PayoutTable.answer PayoutTable.rows PayoutTable.stored
    fun _ _ => True where
  rows_create t p _ _ := (t.created p).rows_eq
  fit_create _ _ _ _ := trivial

theorem keepsRows_memory : KeepsRows MemoryStore.answer MemoryStore.rows id
    fun s ids => ids.Nodup ∧ ∀ id ∈ ids, s.find? id = none where
  rows_create s p ids := by
    rintro ⟨-, hfresh⟩
    have hid := MemoryStore.find?_eq_none_iff.mp (hfresh p.id (List.mem_cons_self ..))
    exact ((s.created_iff p).mpr fun h => absurd h hid).rows_eq
  fit_create s p ids := by
    rintro ⟨hnodup, hfresh⟩
    obtain ⟨hp, hnodup⟩ := List.nodup_cons.mp hnodup
    refine ⟨hnodup, ?_⟩
    intro id hid
    have hnone : s.find? id = none := hfresh id (List.mem_cons_of_mem _ hid)
    rcases s.create_cases p with hcreate | hcreate
    · rw [show (s.answer (.create p)).2 = s.insert p from hcreate,
        MemoryStore.find?_insert_of_ne (ne_of_mem_of_not_mem hid hp), hnone]
    · rw [show (s.answer (.create p)).2 = s from hcreate, hnone]

/-- A creation adds a free payout and refuses one that is not free: always in the table, and in the
memory store if and only if a taken identifier comes with a taken submission. However many payouts
are created, exactly those that are returned are behind the records that were there: in the table
whatever identifiers are drawn, in the memory store if these are fresh. Time counts from 1970. -/
theorem creations_keep_records (t : PayoutTable) (s : MemoryStore) (p : Payout) {ω : Type}
    (rest : Surroundings interface ω) (w : ω) (policy : RetryPolicy) (news : List NewPayout) :
    Created t.rows (PayoutTable.stored p) (t.IsFree p) (PayoutTable.taken p) (t.create p).1
        (t.create p).2.rows ∧
      (p.amount.IsPositive → (∀ t ∈ p.times, t.HasMillisecond) →
        PayoutTable.Holds (PayoutTable.stored p) p.inMilliseconds) ∧
      (Created s.rows p (s.IsFree p) (PayoutTable.taken p) (s.create p).1 (s.create p).2.rows ↔
        (p.id ∈ s.rows.map Payout.id →
          ∃ ref ∈ p.submissionRef, ref ∈ s.rows.filterMap Payout.submissionRef)) ∧
      ((∀ w, 0 ≤ (rest .now w).1.seconds) →
        (createAll policy news).Ends (beside PayoutTable.answer rest) (fun o u _ =>
          ∃ results, o = .ok results ∧
            u.1.rows = t.rows ++ (returned results).map PayoutTable.stored) (t, w) [] ∧
        (createAll policy news).Ends (beside MemoryStore.answer rest) (fun o u past =>
          ∃ results, o = .ok results ∧
            ((drawnIn past).Nodup → (∀ id ∈ drawnIn past, s.find? id = none) →
              u.1.rows = s.rows ++ returned results)) (s, w) []) := by
  refine ⟨t.created p, PayoutTable.holds_stored, s.created_iff p, fun hclock => ⟨?_, ?_⟩⟩
  · refine (keepsRows_table.ends_createAll hclock policy news).imp ?_
    rintro o u past ⟨results, xs, rfl, -, hrows⟩
    exact ⟨results, rfl, hrows trivial⟩
  · refine (keepsRows_memory.ends_createAll hclock policy news).imp ?_
    rintro o u past ⟨results, xs, rfl, rfl, hrows⟩
    refine ⟨results, rfl, fun hnodup hfresh => ?_⟩
    rw [hrows ⟨hnodup, hfresh⟩, List.map_id]

/-- Identifiers are drawn from a list, while time stands still. -/
def sampleDraws : Surroundings interface (List PayoutId)
  | .store _, ids => (.error (.config "down"), ids)
  | .transfer _, ids => (.error .crash, ids)
  | .now, ids => (.epoch, ids)
  | .freshId, ids => (ids.headD sampleId, ids.tail)
  | .publish _, ids => ((), ids)
  | .dispatch _, ids => ((), ids)
  | .pause _, ids => ((), ids)

/-- Two payouts of two submissions. -/
def sampleNews : List NewPayout :=
  [samplePayout none, { samplePayout none with submissionRef := some "sub-2" }]

theorem creations_keep_sampleNews :
    let draws := [PayoutId.ofNat 1, .ofNat 2]
    let past := (createAll samplePolicy sampleNews).outcome.trace
      (beside MemoryStore.answer sampleDraws) (.empty, draws)
    (sampleClaimed none).amount.IsPositive ∧
      (∀ t ∈ (sampleClaimed none).times, t.HasMillisecond) ∧
      PayoutTable.Holds (PayoutTable.stored (sampleClaimed none))
        (sampleClaimed none).inMilliseconds ∧
      (drawnIn past).Nodup ∧ (∀ id ∈ drawnIn past, MemoryStore.empty.find? id = none) ∧
      (createAll samplePolicy sampleNews).Ends (beside MemoryStore.answer sampleDraws)
        (fun o u _ => ∃ results, o = .ok results ∧ u.1.rows = returned results)
        (.empty, draws) [] := by
  intro draws past
  have hamount : (sampleClaimed none).amount.IsPositive := by decide
  have htimes : ∀ t ∈ (sampleClaimed none).times, t.HasMillisecond := by decide
  have hnodup : (drawnIn past).Nodup := by decide
  have hfresh : ∀ id ∈ drawnIn past, MemoryStore.empty.find? id = none := fun _ _ => rfl
  obtain ⟨-, hholds, -, hcreates⟩ := creations_keep_records .empty .empty
    (sampleClaimed none) sampleDraws draws samplePolicy sampleNews
  obtain ⟨-, results, ho, hrows⟩ := hcreates fun _ => Int.le_refl 0
  exact ⟨hamount, htimes, hholds hamount htimes, hnodup, hfresh, results, ho, hrows hnodup hfresh⟩

/-- A payout of the second submission, with the identifier of a payout of the first one. -/
def sampleRedrawn : Payout :=
  { sampleClaimed none with submissionRef := some "sub-2" }

/-- The memory store replaces a record whose identifier is drawn again for another submission. -/
theorem creation_replaces_record :
    (¬ ∀ (s : MemoryStore) (p : Payout),
      Created s.rows p (s.IsFree p) (PayoutTable.taken p) (s.create p).1 (s.create p).2.rows) ∧
    ¬ ∀ (draws : List PayoutId) (s : MemoryStore) (news : List NewPayout),
      (createAll samplePolicy news).Ends (beside MemoryStore.answer sampleDraws)
        (fun _ u _ => s.rows <+: u.1.rows) (s, draws) [] := by
  let s : MemoryStore := ⟨[sampleClaimed none], List.nodup_singleton _⟩
  constructor
  · intro h
    obtain ⟨ref, href, hmem⟩ := (s.created_iff sampleRedrawn).mp (h _ _) (by decide)
    obtain rfl : "sub-2" = ref := Option.some.inj href
    exact absurd hmem (by decide)
  · intro h
    have hprefix := h [sampleId] s (sampleNews.drop 1)
    have hrows : ((createAll samplePolicy (sampleNews.drop 1)).outcome.run
        (beside MemoryStore.answer sampleDraws) (s, [sampleId])).2.1.rows.map Payout.status =
          [.pending] := by
      decide
    have hstatus := (List.IsPrefix.map Payout.status hprefix)
    rw [hrows] at hstatus
    exact absurd hstatus (by decide)

end Disburse.Engine
