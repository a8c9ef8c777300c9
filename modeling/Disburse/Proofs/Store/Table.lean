import Disburse.Proofs.Payout.History
import Disburse.Proofs.Store.Row
import Disburse.Store.Table
import Mathlib.Data.List.Nodup

namespace Disburse

/-- The payout whose times a call writes into a row that exists. -/
def StoreCall.saved? : StoreCall → Option Payout
  | .save p => some p
  | .saveIf p _ => some p
  | _ => none

namespace PayoutTable

variable {t : PayoutTable} {row : PayoutRow Quantity} {p q prev : Payout} {id : PayoutId}
  {expected : Option Status}

/-- A row of the table that denotes a payout. -/
def Holds (row : PayoutRow Quantity) (p : Payout) : Prop :=
  ∃ r : PayoutRow Int64, row = r.map .int ∧ r.Denotes p

theorem decode?_eq_ok_some_iff : decode? (some row) = .ok (some p) ↔ Holds row p := by
  have hmap : ∀ r, integers row = .ok r ↔ row.integers = .ok r := by
    intro r
    rw [integers]
    cases row.integers <;> simp [Except.mapError]
  simp only [decode?, PayoutRow.bind_eq_ok_iff, hmap, PayoutRow.integers_eq_ok_iff,
    PayoutRow.toPayout_eq_ok_iff]
  constructor
  · rintro ⟨r, hr, p', hp', heq⟩
    cases heq
    exact ⟨r, hr, hp'⟩
  · rintro ⟨r, hr, hp⟩
    exact ⟨r, hr, p, hp, rfl⟩

theorem decode?_some_ne_none : decode? (some row) ≠ .ok none := by
  simp [decode?, PayoutRow.bind_eq_ok_iff, pure, Except.pure]

theorem holds_stored (hamount : p.amount.IsPositive)
    (htimes : ∀ t ∈ p.times, t.HasMillisecond) : Holds (stored p) p.inMilliseconds :=
  ⟨_, rfl, PayoutRow.denotes_ofPayout hamount htimes⟩

theorem hasMillisecond_of_holds (h : Holds (stored p) q) : ∀ t ∈ p.times, t.HasMillisecond := by
  obtain ⟨r, hr, hdenotes⟩ := h
  have hinj : (PayoutRow.ofPayout p).map Quantity.int = r.map .int := hr
  have hr' : r = PayoutRow.ofPayout p := by
    have := PayoutRow.integers_eq_ok_iff.mpr hinj
    rw [PayoutRow.integers_map_int] at this
    exact (Except.ok.inj this).symm
  rw [hr'] at hdenotes
  exact PayoutRow.hasMillisecond_of_denotes hdenotes

theorem Holds.updated (h : Holds row p) (htimes : ∀ t ∈ q.stateTimes, t.HasMillisecond) :
    Holds (row.updated (stored q)) (p.withState q.inMilliseconds) := by
  obtain ⟨r, rfl, hr⟩ := h
  exact ⟨_, PayoutRow.map_int_updated r _, hr.updated htimes⟩

theorem get_eq_some_iff : t.get id = .ok (some p) ↔
    ∃ row ∈ t.rows, row.id = id.toText ∧ Holds row p := by
  rw [get]
  constructor
  · intro h
    cases hfind : t.rows.find? fun r => r.id = id.toText with
    | none =>
        rw [hfind] at h
        cases h
    | some row =>
        rw [hfind, decode?_eq_ok_some_iff] at h
        obtain ⟨hrow, hid⟩ := (Distinct.find?_eq_some_iff PayoutRow.id t.ids_nodup).mp hfind
        exact ⟨row, hrow, hid, h⟩
  · rintro ⟨row, hrow, hid, hholds⟩
    rw [(Distinct.find?_eq_some_iff PayoutRow.id t.ids_nodup).mpr ⟨hrow, hid⟩]
    exact decode?_eq_ok_some_iff.mpr hholds

theorem findBySubmission_of_mem {ref : String} (hrow : row ∈ t.rows)
    (href : row.submissionRef = some ref) (hholds : Holds row p) :
    t.findBySubmission ref = .ok (some p) := by
  have hfind := (Distinct.find?_filterMap_eq_some_iff PayoutRow.submissionRef
    t.submissions_nodup).mpr ⟨hrow, href⟩
  rw [findBySubmission, hfind]
  exact decode?_eq_ok_some_iff.mpr hholds

/-- Neither the identifier nor the submission of a payout is in the table. -/
structure IsFree (t : PayoutTable) (p : Payout) : Prop where
  id : p.id.toText ∉ t.rows.map PayoutRow.id
  submission : ∀ ref ∈ p.submissionRef, ref ∉ t.rows.filterMap PayoutRow.submissionRef

theorem create_of_isFree (h : t.IsFree p) :
    ∃ t', t.create p = (.ok (), t') ∧ t'.rows = t.rows ++ [stored p] := by
  have hid : (stored p).id ∉ t.rows.map PayoutRow.id := h.id
  have hsubmission : ¬ ∃ ref ∈ t.rows.filterMap PayoutRow.submissionRef,
      (stored p).submissionRef = some ref := by
    rintro ⟨ref, hmem, href⟩
    exact h.submission ref href hmem
  rw [create, insert?, dif_neg hid, dif_neg hsubmission]
  exact ⟨_, rfl, rfl⟩

theorem create_of_taken {ref : String} (hid : p.id.toText ∉ t.rows.map PayoutRow.id)
    (href : p.submissionRef = some ref) (hmem : ref ∈ t.rows.filterMap PayoutRow.submissionRef) :
    t.create p = (.error (.submissionTaken ref), t) := by
  have hid' : (stored p).id ∉ t.rows.map PayoutRow.id := hid
  rw [create, insert?, dif_neg hid', dif_pos ⟨ref, hmem, href⟩, taken, href]
  rfl

theorem mem_create (h : row ∈ t.rows) (p : Payout) : row ∈ (t.create p).2.rows := by
  rw [create, insert?]
  split_ifs
  · exact h
  · exact h
  · exact List.mem_append_left _ h

theorem rows_update (t : PayoutTable) (q : Payout) (expected : Option Status) :
    (t.update q expected).rows = t.rows.map (revise q expected) :=
  rfl

theorem revise_mem_update (h : row ∈ t.rows) (q : Payout) (expected : Option Status) :
    revise q expected row ∈ (t.update q expected).rows :=
  List.mem_map_of_mem h

theorem filter_update (t : PayoutTable) (q : Payout) (expected : Option Status) :
    (t.update q expected).rows.filter (fun r => r.id ≠ q.id.toText) =
      t.rows.filter fun r => r.id ≠ q.id.toText := by
  have hids : ((fun r : PayoutRow Quantity => decide (r.id ≠ q.id.toText)) ∘ revise q expected) =
      fun r => decide (r.id ≠ q.id.toText) :=
    funext fun r => by simp [revise_id]
  rw [update, List.filter_map, hids]
  refine (List.map_congr_left fun r hr => ?_).trans (List.map_id _)
  have hid : r.id ≠ q.id.toText := by simpa using (List.mem_filter.mp hr).2
  simp [revise, isTarget, hid]

theorem isTarget_none (h : row.id = q.id.toText) : isTarget q none row = true := by
  simp [isTarget, h]

theorem id_of_isTarget (h : isTarget q expected row = true) : row.id = q.id.toText := by
  simp only [isTarget, Bool.and_eq_true, decide_eq_true_eq] at h
  exact h.1

theorem updateCount_ne_zero (h : row ∈ t.rows) (htarget : isTarget q expected row = true) :
    t.updateCount q expected ≠ 0 := by
  rw [updateCount, Ne, List.countP_eq_zero]
  exact fun hnone => hnone row h htarget

theorem updateCount_le_one (t : PayoutTable) (q : Payout) (expected : Option Status) :
    t.updateCount q expected ≤ 1 := by
  have hids : t.rows.countP (fun r => r.id == q.id.toText) ≤ 1 := by
    have hcount := List.nodup_iff_count_le_one.mp t.ids_nodup q.id.toText
    rwa [List.count_eq_countP, List.countP_map] at hcount
  refine (List.countP_mono_left fun r _ htarget => ?_).trans hids
  exact beq_iff_eq.mpr (id_of_isTarget htarget)

theorem isTarget_of_updateCount (hrow : row ∈ t.rows) (hid : row.id = q.id.toText)
    (h : t.updateCount q expected = 1) : isTarget q expected row = true := by
  obtain ⟨target, hmem, htarget⟩ := List.countP_pos_iff.mp (Nat.lt_of_lt_of_eq Nat.one_pos h.symm)
  obtain rfl := List.inj_on_of_nodup_map t.ids_nodup hrow hmem
    (hid.trans (id_of_isTarget htarget).symm)
  exact htarget

/-- A table in which the state of one payout is that of another version of it. -/
structure Revised (t t' : PayoutTable) (prev q : Payout) : Prop where
  read : t'.get q.id = .ok (some (prev.withState q.inMilliseconds))
  others : t'.rows.filter (fun r => r.id ≠ q.id.toText) =
    t.rows.filter fun r => r.id ≠ q.id.toText

theorem revised_update (hrow : row ∈ t.rows) (hid : row.id = q.id.toText) (hholds : Holds row prev)
    (htimes : ∀ t ∈ q.stateTimes, t.HasMillisecond) (htarget : isTarget q expected row = true) :
    Revised t (t.update q expected) prev q where
  read := by
    refine get_eq_some_iff.mpr ⟨_, revise_mem_update hrow q expected, ?_, ?_⟩
    · rw [revise_id, hid]
    · rw [revise, if_pos htarget]
      exact hholds.updated htimes
  others := filter_update t q expected

theorem revised_save (hget : t.get q.id = .ok (some prev))
    (htimes : ∀ t ∈ q.stateTimes, t.HasMillisecond) :
    (t.save q).1 = .ok () ∧ Revised t (t.save q).2 prev q := by
  obtain ⟨row, hrow, hid, hholds⟩ := get_eq_some_iff.mp hget
  have htarget := isTarget_none hid
  rw [save, if_neg (updateCount_ne_zero hrow htarget)]
  exact ⟨rfl, revised_update hrow hid hholds htimes htarget⟩

theorem revised_saveIf {expected : Status} (hget : t.get q.id = .ok (some prev))
    (htimes : ∀ t ∈ q.stateTimes, t.HasMillisecond) (hwon : (t.saveIf q expected).1 = .ok true) :
    Revised t (t.saveIf q expected).2 prev q := by
  obtain ⟨row, hrow, hid, hholds⟩ := get_eq_some_iff.mp hget
  have hcount : t.updateCount q (some expected) = 1 := by simpa [saveIf] using hwon
  exact revised_update hrow hid hholds htimes (isTarget_of_updateCount hrow hid hcount)

/-- The table after some calls. -/
def after (t : PayoutTable) (calls : List StoreCall) : PayoutTable :=
  calls.foldl (fun t c => (t.answer c).2) t

/-- A version of a payout is read from the table. -/
def Keeps (t : PayoutTable) (p : Payout) : Prop :=
  ∃ prev, t.get p.id = .ok (some prev) ∧ p.SameOrigin prev

theorem holds_revise (h : Holds row prev)
    (htimes : row.id = q.id.toText → ∀ t ∈ q.stateTimes, t.HasMillisecond)
    (expected : Option Status) :
    ∃ next, Holds (revise q expected row) next ∧ prev.SameOrigin next := by
  by_cases htarget : isTarget q expected row = true
  · rw [revise, if_pos htarget]
    exact ⟨_, h.updated (htimes (id_of_isTarget htarget)), by constructor <;> rfl⟩
  · rw [revise, if_neg htarget]
    exact ⟨prev, h, .refl prev⟩

theorem keeps_update (h : t.Keeps p)
    (htimes : q.id = p.id → ∀ t ∈ q.stateTimes, t.HasMillisecond) (expected : Option Status) :
    (t.update q expected).Keeps p := by
  obtain ⟨prev, hget, horigin⟩ := h
  obtain ⟨row, hrow, hid, hholds⟩ := get_eq_some_iff.mp hget
  have htimes' : row.id = q.id.toText → ∀ t ∈ q.stateTimes, t.HasMillisecond :=
    fun hq => htimes (PayoutId.toText_injective (hq.symm.trans hid))
  obtain ⟨next, hnext, hsame⟩ := holds_revise hholds htimes' expected
  exact ⟨next, get_eq_some_iff.mpr ⟨_, revise_mem_update hrow q expected,
    (revise_id q expected row).trans hid, hnext⟩, horigin.trans hsame⟩

theorem keeps_answer (h : t.Keeps p) {c : StoreCall}
    (hc : ∀ q ∈ c.saved?, q.id = p.id → ∀ t ∈ q.stateTimes, t.HasMillisecond) :
    (t.answer c).2.Keeps p := by
  cases c with
  | create q =>
      obtain ⟨prev, hget, horigin⟩ := h
      obtain ⟨row, hrow, hid, hholds⟩ := get_eq_some_iff.mp hget
      exact ⟨prev, get_eq_some_iff.mpr ⟨row, mem_create hrow q, hid, hholds⟩, horigin⟩
  | save q =>
      rw [answer, save]
      split
      · exact h
      · exact keeps_update h (hc q rfl) none
  | saveIf q expected => exact keeps_update h (hc q rfl) (some expected)
  | get _ | findBySubmission _ | findDue _ _ _ | findStale _ _ _ | list _ => exact h

theorem keeps_after (h : t.Keeps p) {calls : List StoreCall}
    (hcalls : ∀ c ∈ calls, ∀ q ∈ c.saved?, q.id = p.id → ∀ t ∈ q.stateTimes, t.HasMillisecond) :
    (t.after calls).Keeps p := by
  induction calls generalizing t with
  | nil => exact h
  | cons c calls ih =>
      obtain ⟨hc, hcalls⟩ := List.forall_mem_cons.mp hcalls
      exact ih (keeps_answer h hc) hcalls

/-- A payout that was created is read back in whole milliseconds, by its identifier and by its
submission, and so is every later version of it: what it was created with stays, its state is what
was written last, and no other row changes. -/
theorem read_back (hfree : t.IsFree p) (hamount : p.amount.IsPositive)
    (htimes : ∀ t ∈ p.times, t.HasMillisecond) :
    ∃ t', t.create p = (.ok (), t') ∧
      t'.get p.id = .ok (some p.inMilliseconds) ∧
      (∀ ref ∈ p.submissionRef, t'.findBySubmission ref = .ok (some p.inMilliseconds)) ∧
      ∀ calls : List StoreCall,
        (∀ c ∈ calls, ∀ q ∈ c.saved?, q.id = p.id → ∀ t ∈ q.stateTimes, t.HasMillisecond) →
        ∃ prev, (t'.after calls).get p.id = .ok (some prev) ∧ p.inMilliseconds.SameOrigin prev ∧
          ∀ q : Payout, q.id = p.id → (∀ t ∈ q.stateTimes, t.HasMillisecond) →
            (((t'.after calls).save q).1 = .ok () ∧
              Revised (t'.after calls) ((t'.after calls).save q).2 prev q) ∧
            ∀ expected, ((t'.after calls).saveIf q expected).1 = .ok true →
              Revised (t'.after calls) ((t'.after calls).saveIf q expected).2 prev q := by
  obtain ⟨t', hcreate, hrows⟩ := create_of_isFree hfree
  have hrow : stored p ∈ t'.rows := by simp [hrows]
  have hholds := holds_stored hamount htimes
  have hget : t'.get p.id = .ok (some p.inMilliseconds) :=
    get_eq_some_iff.mpr ⟨_, hrow, rfl, hholds⟩
  refine ⟨t', hcreate, hget, fun ref href => findBySubmission_of_mem hrow href hholds, ?_⟩
  intro calls hcalls
  obtain ⟨prev, hprev, horigin⟩ := keeps_after (p := p.inMilliseconds) ⟨_, hget, .refl _⟩ hcalls
  refine ⟨prev, hprev, horigin, fun q hq hstate => ?_⟩
  have hprev' : (t'.after calls).get q.id = .ok (some prev) := hq ▸ hprev
  exact ⟨revised_save hprev' hstate, fun expected hwon => revised_saveIf hprev' hstate hwon⟩

theorem read_back_sampleFailed :
    empty.IsFree .sampleFailed ∧ Payout.sampleFailed.amount.IsPositive ∧
      (∀ t ∈ Payout.sampleFailed.times, t.HasMillisecond) ∧
      ∃ t', empty.create .sampleFailed = (.ok (), t') ∧
        t'.get Payout.sampleFailed.id = .ok (some Payout.sampleFailed.inMilliseconds) ∧
        ∃ prev, (t'.after [.list ⟨none, none, none, none, none⟩]).get Payout.sampleFailed.id =
            .ok (some prev) ∧
          Revised (t'.after [.list ⟨none, none, none, none, none⟩])
            ((t'.after [.list ⟨none, none, none, none, none⟩]).save .sampleFailed).2 prev
            .sampleFailed := by
  have hfree : empty.IsFree .sampleFailed := ⟨List.not_mem_nil, fun _ _ => List.not_mem_nil⟩
  have hamount : Payout.sampleFailed.amount.IsPositive := by decide
  have htimes : ∀ t ∈ Payout.sampleFailed.times, t.HasMillisecond := by decide
  obtain ⟨t', hcreate, hget, -, hlater⟩ := read_back hfree hamount htimes
  obtain ⟨prev, hprev, -, hwrites⟩ :=
    hlater [.list ⟨none, none, none, none, none⟩] (by simp [StoreCall.saved?])
  exact ⟨hfree, hamount, htimes, t', hcreate, hget, prev, hprev,
    (hwrites _ rfl fun t ht => htimes t (List.mem_cons_of_mem _ ht)).1.2⟩

/-- A payout with a time in the leap second at the end of the last year is written, but not read
back. -/
theorem unreadable_of_not_hasMillisecond (hfree : t.IsFree p)
    (hlast : ∃ time ∈ p.times, ¬ time.HasMillisecond) :
    ∃ t', t.create p = (.ok (), t') ∧ ∃ e, t'.get p.id = .error e := by
  obtain ⟨t', hcreate, hrows⟩ := create_of_isFree hfree
  have hrow : stored p ∈ t'.rows := by
    simp [hrows]
  have hfind : (t'.rows.find? fun r => r.id = p.id.toText) = some (stored p) :=
    (Distinct.find?_eq_some_iff PayoutRow.id t'.ids_nodup).mpr ⟨hrow, rfl⟩
  refine ⟨t', hcreate, ?_⟩
  cases hget : t'.get p.id with
  | error e => exact ⟨e, rfl⟩
  | ok found =>
      exfalso
      rw [get, hfind] at hget
      cases found with
      | none => exact decode?_some_ne_none hget
      | some q =>
          obtain ⟨time, htime, hnot⟩ := hlast
          exact hnot (hasMillisecond_of_holds (decode?_eq_ok_some_iff.mp hget) time htime)

/-- The sample, created in the leap second at the end of the last year. -/
def sampleLast : Payout :=
  { Payout.sampleFailed with
    createdAt := ⟨8210266876799, 1000000000, by decide, by decide, by decide, by decide⟩ }

/-- What follows the last millisecond is written, but not read back. -/
theorem unreadable_last_leap_second :
    empty.IsFree sampleLast ∧ sampleLast.amount.IsPositive ∧
      (empty.create sampleLast).1 = .ok () ∧
      (empty.create sampleLast).2.get sampleLast.id =
        .error (.validation "stored timestamp out of range: 8210266876800000") := by
  refine ⟨⟨List.not_mem_nil, fun _ _ => List.not_mem_nil⟩, by decide, rfl, rfl⟩

end PayoutTable

end Disburse
