import Disburse.Proofs.Engine.Journal

/-!
What listeners are told of completions. A completion that is announced is the one in the store,
and it is announced once, as long as no two tasks have both seen the success of one transfer of a
payout: a task that finds its own transaction on the record takes it for its own earlier write.
-/

namespace Disburse.Engine

open Disburse.Machine Disburse.Code

/-- No request is out of order: what a program does by itself, for all answers. -/
def lenient : Code interface where
  faithful := Faithful
  allows _ _ := True

/-- The version that was read last, or else the given one. -/
def latest (past : List (Exchange interface)) (p : Payout) : Payout :=
  (lastRead past p.id).getD p

/-- A record is completed, by another transaction. -/
def OvertakenBy (p : Payout) (transactionRef : String) : Prop :=
  p.status = .completed ∧ p.transactionRef ≠ some transactionRef

/-- What a completion ends with: nothing exactly if the record that was read last had been
completed by another transaction. -/
structure Concludes (past : List (Exchange interface)) (p : Payout) (transactionRef : String)
    (o : Outcome (Option Payout)) (past' : List (Exchange interface)) : Prop where
  silent : announcements past' = announcements past
  overtaken : o = .ok none → OvertakenBy (latest past' p) transactionRef
  written : ∀ done, o = .ok (some done) → ¬ OvertakenBy (latest past' p) transactionRef

section Completion

variable {past past' past'' : List (Exchange interface)} {p current : Payout}
  {receipt : TransferReceipt} {transactionRef : String}

theorem Concludes.of_error {a : Abort} (h : announcements past' = announcements past) :
    Concludes past p transactionRef (.error a) past' where
  silent := h
  overtaken h := nomatch h
  written _ h := nomatch h

theorem Concludes.after {o : Outcome (Option Payout)}
    (h : announcements past' = announcements past)
    (h' : Concludes past' p transactionRef o past'') :
    Concludes past p transactionRef o past'' where
  silent := h'.silent.trans h
  overtaken := h'.overtaken
  written := h'.written

theorem latest_append {x : Exchange interface} (hx : recordsIn x = []) :
    latest (past ++ [x]) p = latest past p := by
  rw [latest, lastRead_append, hx]
  rfl

theorem heeds_lenient_load : lenient.Heeds (load p.id) (fun o past' =>
    announcements past' = announcements past ∧
      ∀ current, o = .ok current → latest past' p = current ∧ current.id = p.id) past := by
  unfold load
  refine Heeds.bind (R := fun (o : Outcome (Option Payout)) past' =>
    announcements past' = announcements past ∧
      ∀ current, o = .ok (some current) → latest past' p = current ∧ current.id = p.id)
    ⟨trivial, ?_⟩ ?_ fun _ _ h => ⟨h.1, by simp⟩
  · rintro (e | found) hfaithful
    · exact ⟨by simp [announced?], fun _ h => nomatch h⟩
    · refine ⟨by simp [announced?], fun current h => ?_⟩
      obtain rfl : found = some current := Except.ok.inj h
      have hid : current.id = p.id := hfaithful
      refine ⟨?_, hid⟩
      rw [latest, lastRead_append]
      simp [recordsIn, hid]
  · rintro (_ | current) past' ⟨hsilent, h⟩
    · exact heeds_fail.mpr ⟨hsilent, by simp⟩
    · exact heeds_pure.mpr ⟨hsilent, fun q hq => Except.ok.inj hq ▸ h current rfl⟩

theorem heeds_lenient_writeCompletion {tries : Nat} (hcurrent : latest past p = current) :
    lenient.Heeds (writeCompletion p.id receipt current tries)
      (Concludes past p receipt.transactionRef) past := by
  induction tries generalizing past current with
  | zero => exact heeds_fail.mpr (.of_error rfl)
  | succ tries ih =>
      unfold writeCompletion
      split
      · rename_i hcompleted
        refine heeds_pure.mpr ⟨rfl, ?_, ?_⟩
        · intro hnone
          rw [hcurrent]
          refine ⟨hcompleted, fun href => ?_⟩
          rw [if_pos href] at hnone
          cases hnone
        · intro done hdone hovertaken
          rw [hcurrent] at hovertaken
          rw [if_neg hovertaken.2] at hdone
          cases hdone
      rename_i hcompleted
      refine Heeds.bind (R := fun _ past' => announcements past' = announcements past ∧
        latest past' p = current) ⟨trivial, fun t _ => ⟨by simp [announced?], ?_⟩⟩ ?_
        fun _ _ h => .of_error h.1
      · rw [latest_append rfl, hcurrent]
      rintro t past₁ ⟨hsilent₁, hcurrent₁⟩
      refine Heeds.bind (R := fun _ past' => announcements past' = announcements past ∧
        latest past' p = current) ⟨trivial, fun a _ => ⟨by simp [hsilent₁, announced?], ?_⟩⟩ ?_
        fun _ _ h => .of_error h.1
      · rw [latest_append rfl, hcurrent₁]
      rintro (_ | _) past₂ ⟨hsilent₂, hcurrent₂⟩
      · refine heeds_lenient_load.bind ?_ fun _ _ h => .of_error (h.1.trans hsilent₂)
        rintro current' past₃ ⟨hsilent₃, hcurrent₃⟩
        exact (ih (hcurrent₃ current' rfl).1).imp fun _ _ h => h.after (hsilent₃.trans hsilent₂)
      · refine heeds_pure.mpr ⟨hsilent₂, by simp, fun _ _ hovertaken => ?_⟩
        rw [hcurrent₂] at hovertaken
        exact hcompleted hovertaken.1

theorem heeds_lenient_persist {act : Nat → Work (Option Payout)} {tries n : Nat}
    {P : Nat → List (Exchange interface) → Prop}
    (hact : ∀ n past, P n past →
      lenient.Heeds (act n) (Concludes past p transactionRef) past)
    (hP : ∀ n past, P (n + 1) past) (hpast : P n past) :
    lenient.Heeds (persist act n tries) (Concludes past p transactionRef) past := by
  induction tries generalizing n past with
  | zero => exact hact n past hpast
  | succ tries ih =>
      refine Heeds.bind (R := fun (o : Outcome (Except Error (Option Payout))) past' =>
        announcements past' = announcements past ∧
          ∀ written, o = .ok (.ok written) →
            Concludes past p transactionRef (.ok written) past')
        (heeds_attempt.mpr ((hact n past hpast).imp ?_)) ?_ fun _ _ h => .of_error h.1
      · rintro ((e | _) | written) past' h
        · exact ⟨h.silent, by simp⟩
        · exact ⟨h.silent, by simp⟩
        · exact ⟨h.silent, fun w hw => Except.ok.inj (Except.ok.inj hw) ▸ h⟩
      · rintro (e | written) past' ⟨hsilent, h⟩
        · refine Heeds.bind (R := fun _ past'' => announcements past'' = announcements past)
            ⟨trivial, fun _ _ => ?_⟩ ?_ fun _ _ h => .of_error h
          · show announcements (past' ++ _) = _
            simp [hsilent, announced?]
          exact fun _ past'' hsilent' =>
            (ih (hP n past'')).imp fun _ _ h => h.after hsilent'
        · exact heeds_pure.mpr (h written rfl)

/-- A completion is announced exactly if it answers that the payout is completed; then the record,
as it was read last, was not completed by another transaction, and if the answer is no, it was. -/
theorem heeds_lenient_complete :
    lenient.Heeds (complete p receipt) (fun o past' =>
      (∃ done : Payout, announcements past' =
        if o = .ok true then
          [.processed p.id done.recipient done.amount receipt.transactionRef] else []) ∧
      (o = .ok true → ¬ OvertakenBy (latest past' p) receipt.transactionRef) ∧
      (o = .ok false → OvertakenBy (latest past' p) receipt.transactionRef)) [] := by
  unfold complete
  refine Heeds.bind (R := Concludes [] p receipt.transactionRef)
    (heeds_lenient_persist (P := fun n past => n = 0 → past = []) ?_
      (fun n past h => absurd h n.succ_ne_zero) fun _ => rfl) ?_ ?_
  · intro n past hpast
    dsimp only
    split
    · rename_i hn
      obtain rfl := hpast hn
      exact heeds_lenient_writeCompletion rfl
    · refine heeds_lenient_load.bind ?_ fun _ _ h => .of_error h.1
      rintro current past' ⟨hsilent, hcurrent⟩
      exact (heeds_lenient_writeCompletion (hcurrent current rfl).1).imp fun _ _ h =>
        h.after hsilent
  · rintro (_ | done) past' h
    · exact heeds_pure.mpr ⟨⟨p, by simp [h.silent]⟩, by simp, fun _ => h.overtaken rfl⟩
    · refine Heeds.bind (R := fun o past'' => o = .ok () ∧
          announcements past'' = announcements [] ++
            [.processed p.id done.recipient done.amount receipt.transactionRef] ∧
          latest past'' p = latest past' p)
        ⟨trivial, fun _ _ => ⟨rfl, by simp [h.silent, announced?], latest_append rfl⟩⟩ ?_ ?_
      · rintro _ past'' ⟨-, hnews, hlatest⟩
        refine heeds_pure.mpr ⟨⟨done, by simp [hnews]⟩, fun _ => ?_, by simp⟩
        rw [hlatest]
        exact h.written done rfl
      · rintro e past'' ⟨h, -⟩
        cases h
  · rintro e past' h
    exact ⟨⟨p, by simp [h.silent]⟩, by simp, by simp⟩

end Completion

section Thread

variable {op : Operation} {past before : List (Exchange interface)} {x : Exchange interface}
  {id : PayoutId}

theorem announceable_of_processed {recipient transactionRef : String} {amount : Decimal}
    (h : (conduct op).allows before x.request)
    (hrequest : x.request = .publish (.processed id recipient amount transactionRef)) :
    (∃ q, (Shown before q ∨ ∃ expected, wonSwap q expected ∈ before) ∧ q.status = .completed ∧
      q.id = id ∧ q.recipient = recipient ∧ q.amount = amount ∧
      q.transactionRef = some transactionRef ∧
      ∃ ledger, Confirmed before id transactionRef ledger) ∧
    ∀ e ∈ announcements before, e.id ≠ id := by
  rw [hrequest] at h
  obtain ⟨⟨q, hsource, hstatus, href, hevent, hconfirmed⟩, hfirst⟩ := h.2
  cases hevent
  exact ⟨⟨q, hsource, hstatus, rfl, rfl, rfl, href, hconfirmed⟩, hfirst⟩

theorem announced?_eq_some {r : Request} {e : Event} (h : announced? r = some e) :
    r = .publish e ∧ ∃ id recipient amount transactionRef,
      e = .processed id recipient amount transactionRef := by
  unfold announced? at h
  split at h
  · cases h
    exact ⟨rfl, _, _, _, _, rfl⟩
  · cases h

theorem length_announcements_le
    (h : ∀ before x, before ++ [x] <+: past → (conduct op).allows before x.request) :
    ((announcements past).filter fun e => e.id = id).length ≤ 1 := by
  induction past using List.reverseRecOn with
  | nil => simp
  | append_singleton past x ih =>
      have ih := ih fun before y hy => h before y (hy.trans (List.prefix_append ..))
      rw [announcements_append, announcements_singleton, List.filter_append, List.length_append]
      cases hx : announced? x.request with
      | none => simpa using ih
      | some e =>
          obtain ⟨hrequest, id', recipient, amount, transactionRef, rfl⟩ := announced?_eq_some hx
          by_cases hid : id' = id
          · subst hid
            have hfirst := (announceable_of_processed (h past x (List.prefix_refl _)) hrequest).2
            have hnone : (announcements past).filter (fun e => e.id = id') = [] := by
              simpa using hfirst
            rw [hnone]
            simp [Event.id]
          · simpa [Event.id, hid] using ih

end Thread

section Run

variable {policy : RetryPolicy} {moves : List (concurrent policy).Move}
  {t : (concurrent policy).Thread} {id : PayoutId} {e : Event}

/-- A completion that a thread has announced is the one in the store, and the thread has seen the
success of its transfer. -/
theorem completed_of_announced (ht : t ∈ ((concurrent policy).run moves).threads)
    (he : e ∈ announcements t.past) :
    ∃ row transactionRef, ((concurrent policy).run moves).state.store.find? e.id = some row ∧
      row.status = .completed ∧ row.transactionRef = some transactionRef ∧
      e = .processed e.id row.recipient row.amount transactionRef ∧
      ∃ ledger, Confirmed t.past e.id transactionRef ledger := by
  obtain ⟨x, hx, hannounced⟩ := List.mem_filterMap.mp he
  obtain ⟨hrequest, id', recipient, amount, transactionRef, rfl⟩ := announced?_eq_some hannounced
  obtain ⟨before, after, hpast⟩ := List.append_of_mem hx
  have hbefore : before ⊆ t.past := by simp [hpast]
  obtain ⟨⟨q, hsource, hstatus, rfl, rfl, rfl, href, ledger, hconfirmed⟩, -⟩ :=
    announceable_of_processed ((abides ht).allowed before x ⟨after, by simp [hpast]⟩) hrequest
  have hsource' : Shown t.past q ∨ ∃ expected, wonSwap q expected ∈ t.past :=
    hsource.imp (fun h => h.mono hbefore) fun ⟨expected, h⟩ => ⟨expected, hbefore h⟩
  obtain ⟨row, hrow, hlead⟩ := leadsTo_of_mem_past ht hsource'
  obtain rfl := hlead.completed hstatus
  exact ⟨row, transactionRef, hrow, hstatus, href, rfl, ledger, hconfirmed.mono hbefore⟩

theorem completed_of_filter_ne_nil (ht : t ∈ ((concurrent policy).run moves).threads)
    (h : (announcements t.past).filter (fun e => e.id = id) ≠ []) :
    ∃ row transactionRef, ((concurrent policy).run moves).state.store.find? id = some row ∧
      row.transactionRef = some transactionRef ∧
      ∃ ledger, Confirmed t.past id transactionRef ledger := by
  obtain ⟨e, he⟩ := List.exists_mem_of_ne_nil _ h
  rw [List.mem_filter, decide_eq_true_eq] at he
  obtain ⟨he, rfl⟩ := he
  obtain ⟨row, transactionRef, hrow, -, href, -, hconfirmed⟩ := completed_of_announced ht he
  exact ⟨row, transactionRef, hrow, href, hconfirmed⟩

theorem published_processed {log : List Entry} :
    published "payout.processed" id log =
      (announcements (log.map Entry.exchange)).filter fun e => e.id = id := by
  induction log with
  | nil => rfl
  | cons e log ih =>
      obtain ⟨⟨r, a⟩, s⟩ := e
      unfold published announcements at ih ⊢
      cases r with
      | publish event =>
          cases event with
          | processed id' _ _ _ =>
              by_cases hid : id' = id <;>
                simpa [Entry.event?, announced?, Event.name, Event.id, hid] using ih
          | failed => simpa [Entry.event?, announced?, Event.name] using ih
      | store _ | transfer _ | now | freshId | pause _ | dispatch _ =>
          simpa [Entry.event?, announced?, List.filterMap_cons] using ih

theorem published_perm : (published "payout.processed" id
    ((concurrent policy).run moves).state.log).Perm
      (((concurrent policy).run moves).threads.flatMap
        fun t => (announcements t.past).filter fun e => e.id = id) := by
  rw [published_processed, announcements]
  refine ((exchanges_perm.filterMap _).filter _).trans ?_
  rw [List.filterMap_flatMap, List.filter_flatMap]
  exact List.Perm.refl _

theorem length_flatMap_le {α β : Type} {f : α → List β} {l : List α}
    (hle : ∀ a ∈ l, (f a).length ≤ 1) (hpair : l.Pairwise fun a b => f a = [] ∨ f b = []) :
    (l.flatMap f).length ≤ 1 := by
  induction l with
  | nil => simp
  | cons a l ih =>
      rw [List.pairwise_cons] at hpair
      have ih := ih (fun b hb => hle b (List.mem_cons_of_mem a hb)) hpair.2
      have ha := hle a List.mem_cons_self
      rw [List.flatMap_cons, List.length_append]
      cases hfirst : f a with
      | nil => simpa using ih
      | cons b bs =>
          have hrest : l.flatMap f = [] := by
            refine List.flatMap_eq_nil_iff.mpr fun c hc => ?_
            simpa [hfirst] using hpair.1 c hc
          rw [hrest, ← hfirst]
          simpa using ha

end Run

/-- A completion that is announced is the one in the store. It is announced once, if no two tasks
have both seen the success of one transfer of the payout; and a completion that answers yes is one
that announces, while one that answers no has found the record completed by another transaction. -/
theorem announcement_unique {policy : RetryPolicy} {moves : List (concurrent policy).Move}
    {id : PayoutId}
    (hsuccess : ((concurrent policy).run moves).threads.Pairwise fun t u =>
      ∀ transactionRef ledger ledger', ¬ (Confirmed t.past id transactionRef ledger ∧
        Confirmed u.past id transactionRef ledger')) :
    (published "payout.processed" id ((concurrent policy).run moves).state.log).length ≤ 1 ∧
    (∀ e ∈ published "payout.processed" id ((concurrent policy).run moves).state.log,
      ∃ row transactionRef, ((concurrent policy).run moves).state.store.find? id = some row ∧
        row.status = .completed ∧ row.transactionRef = some transactionRef ∧
        e = .processed id row.recipient row.amount transactionRef) ∧
    ∀ (p : Payout) (receipt : TransferReceipt),
      lenient.Heeds (complete p receipt) (fun o past =>
        (∃ done : Payout, announcements past =
          if o = .ok true then
            [.processed p.id done.recipient done.amount receipt.transactionRef] else []) ∧
        (o = .ok true → ¬ OvertakenBy (latest past p) receipt.transactionRef) ∧
        (o = .ok false → OvertakenBy (latest past p) receipt.transactionRef)) [] := by
  refine ⟨?_, fun e he => ?_, fun p receipt => heeds_lenient_complete⟩
  · rw [published_perm.length_eq]
    refine length_flatMap_le (fun t ht => length_announcements_le (abides ht).allowed) ?_
    refine hsuccess.imp_of_mem fun {t u} ht hu hconfirmed => ?_
    by_contra hboth
    obtain ⟨hfirst, hsecond⟩ := not_or.mp hboth
    obtain ⟨row, ref, hrow, href, ledger, ht⟩ := completed_of_filter_ne_nil ht hfirst
    obtain ⟨row', ref', hrow', href', ledger', hu⟩ := completed_of_filter_ne_nil hu hsecond
    obtain rfl := Option.some.inj (hrow.symm.trans hrow')
    obtain rfl := Option.some.inj (href.symm.trans href')
    exact hconfirmed ref ledger ledger' ⟨ht, hu⟩
  · obtain ⟨t, ht, hmem⟩ := List.mem_flatMap.mp (published_perm.mem_iff.mp he)
    rw [List.mem_filter, decide_eq_true_eq] at hmem
    obtain ⟨hmem, rfl⟩ := hmem
    obtain ⟨row, transactionRef, hrow, hstatus, href, hevent, -⟩ := completed_of_announced ht hmem
    exact ⟨row, transactionRef, hrow, hstatus, href, hevent⟩

/-- Whether the success of a transfer was seen. -/
def seesSuccess (past : List (Exchange interface)) : Bool :=
  past.any fun
    | ⟨.transfer (.awaitConfirmation _), .ok _⟩ => true
    | ⟨.transfer (.lookup _), .ok (.success _)⟩ => true
    | _ => false

theorem seesSuccess_of_confirmed {past : List (Exchange interface)} {id : PayoutId}
    {transactionRef : String} {ledger : Int64} (h : Confirmed past id transactionRef ledger) :
    seesSuccess past = true := by
  rw [seesSuccess, List.any_eq_true]
  rcases h with ⟨q, hash, -, -, -, hx⟩ | ⟨q, -, -, -, hx⟩
  · exact ⟨_, hx, rfl⟩
  · exact ⟨_, hx, rfl⟩

/-- Thread 2 submits the payout and stores the hash. -/
def sampleSubmitted : List (concurrent samplePolicy).Move :=
  sampleClaim none ++
    [.resume 2 .plain, .resume 2 (.submitted (.ok "h1")), .resume 2 (.clock .epoch),
      .resume 2 .plain]

/-- The transfer is confirmed, and its completion is written and announced. -/
def sampleCompleted : List (concurrent samplePolicy).Move :=
  sampleSubmitted ++
    [.resume 2 (.confirmed (.ok ⟨"h1", 7⟩)), .resume 2 (.clock .epoch), .resume 2 .plain,
      .resume 2 .plain]

theorem announcement_unique_sampleCompleted :
    published "payout.processed" sampleId
        ((concurrent samplePolicy).run sampleCompleted).state.log =
      [.processed sampleId "GDEST" (.ofParts false 5 0) "h1"] ∧
    (published "payout.processed" sampleId
      ((concurrent samplePolicy).run sampleCompleted).state.log).length ≤ 1 := by
  have hpair : ((concurrent samplePolicy).run sampleCompleted).threads.Pairwise fun t u =>
      ¬ (seesSuccess t.past = true ∧ seesSuccess u.past = true) := by
    decide +kernel
  refine ⟨by decide +kernel,
    (announcement_unique (hpair.imp fun h ref ledger ledger' hboth => h ?_)).1⟩
  exact ⟨seesSuccess_of_confirmed hboth.1, seesSuccess_of_confirmed hboth.2⟩

/-- Meanwhile two recoveries have read the record, and both look up `h1`. The second one loses its
swap, and finds `h1` on the record. -/
def sampleRecoveries : List (concurrent samplePolicy).Move :=
  sampleSubmitted ++
    [.start (.recover sampleId), .start (.recover sampleId), .resume 3 .plain, .resume 4 .plain,
      .resume 3 (.found (.ok (.success 7))), .resume 4 (.found (.ok (.success 7))),
      .resume 3 (.clock .epoch), .resume 3 .plain, .resume 3 .plain,
      .resume 4 (.clock .epoch), .resume 4 .plain, .resume 4 .plain, .resume 4 .plain]

/-- Two recoveries that overlap announce the same completion. -/
theorem announced_twice_by_recoveries :
    published "payout.processed" sampleId
        ((concurrent samplePolicy).run sampleRecoveries).state.log =
      [.processed sampleId "GDEST" (.ofParts false 5 0) "h1",
        .processed sampleId "GDEST" (.ofParts false 5 0) "h1"] := by
  decide +kernel

end Disburse.Engine
