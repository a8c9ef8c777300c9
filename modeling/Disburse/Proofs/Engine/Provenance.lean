import Disburse.Proofs.Engine.Journal

/-!
Where stored hashes and completions come from. A stored hash was given for a submission of the
record's own transfer, and a completed record names a transaction that was given so and was seen
to succeed. The hash travels through the store from the submission to the lookup, and copies of
the record travel through the threads, so that this is said of every store that the log shows.
-/

namespace Disburse.Engine

open Disburse.Machine

/-- The success of a transfer: it was submitted, and the hash of that submission was confirmed or
looked up. -/
def Settled (xs : List (Exchange interface)) (request : TransferRequest) (transactionRef : String)
    (ledger : Int64) : Prop :=
  (∃ hash, submission request hash ∈ xs ∧ confirmation hash ⟨transactionRef, ledger⟩ ∈ xs) ∨
  (submission request transactionRef ∈ xs ∧ landing transactionRef ledger ∈ xs)

/-- What is behind a record. -/
structure Backed (xs : List (Exchange interface)) (p : Payout) : Prop where
  positive : p.amount.IsPositive
  hash : ∀ hash, p.submittedHash = some hash → submission (requestOf p) hash ∈ xs
  completed : p.status = .completed → ∃ transactionRef ledger,
    p.transactionRef = some transactionRef ∧ p.ledgerRef = some ledger ∧
      Settled xs (requestOf p) transactionRef ledger

variable {xs ys : List (Exchange interface)} {p q : Payout} {s s' : MemoryStore}

theorem Settled.mono {request : TransferRequest} {transactionRef : String} {ledger : Int64}
    (h : Settled xs request transactionRef ledger) (hxs : xs ⊆ ys) :
    Settled ys request transactionRef ledger := by
  rcases h with ⟨hash, hsubmit, hconfirm⟩ | ⟨hsubmit, hland⟩
  · exact .inl ⟨hash, hxs hsubmit, hxs hconfirm⟩
  · exact .inr ⟨hxs hsubmit, hxs hland⟩

theorem Backed.mono (h : Backed xs p) (hxs : xs ⊆ ys) : Backed ys p where
  positive := h.positive
  hash hash hp := hxs (h.hash hash hp)
  completed hp := by
    obtain ⟨transactionRef, ledger, href, hledger, hsettled⟩ := h.completed hp
    exact ⟨transactionRef, ledger, href, hledger, hsettled.mono hxs⟩

theorem requestOf_of_sameOrigin (h : p.SameOrigin q) : requestOf q = requestOf p := by
  simp [requestOf, h.id, h.recipient, h.amount, h.asset]

theorem mem_rows_of_answer {b : Behaviour} {r : Request} {a : interface.Answer r}
    (hsave : ∀ q, r ≠ .store (.save q)) (hanswer : b.answer r s = some (a, s'))
    (hp : p ∈ s'.rows) :
    p ∈ s.rows ∨ r = .store (.create p) ∨ ∃ expected, r = .store (.saveIf p expected) := by
  cases r with
  | transfer _ | now | freshId | publish _ | dispatch _ | pause _ =>
      exact .inl (Behaviour.answer_other (by simp) hanswer ▸ hp)
  | store c =>
      cases c with
      | get _ | findBySubmission _ | findDue _ _ _ | findStale _ _ _ | list _ =>
          exact .inl ((Behaviour.answer_read rfl hanswer).1 ▸ hp)
      | save q => exact absurd rfl (hsave q)
      | create q =>
          rcases Behaviour.answer_create hanswer with rfl | rfl
          · exact .inl hp
          · rcases MemoryStore.mem_insert.mp hp with ⟨hold, -⟩ | rfl
            · exact .inl hold
            · exact .inr (.inl rfl)
      | saveIf q expected =>
          rcases Behaviour.answer_saveIf hanswer with ⟨rfl, -⟩ | ⟨rfl, -⟩
          · exact .inl hp
          · rcases MemoryStore.mem_overwrite.mp hp with ⟨hold, -⟩ | ⟨rfl, -⟩
            · exact .inl hold
            · exact .inr (.inr ⟨expected, rfl⟩)

section Concurrent

variable {policy : RetryPolicy} {moves : List (concurrent policy).Move}
  {t : (concurrent policy).Thread}

theorem sameOrigin_of_shown (ht : t ∈ ((concurrent policy).run moves).threads)
    (hp : Shown t.past p) (hq : Shown t.past q) (hid : q.id = p.id) : p.SameOrigin q := by
  obtain ⟨row, hrow, hlead⟩ := leadsTo_of_mem_past ht (.inl hp)
  obtain ⟨row', hrow', hlead'⟩ := leadsTo_of_mem_past ht (.inl hq)
  obtain rfl : row' = row := Option.some.inj ((hid ▸ hrow').symm.trans hrow)
  exact hlead.origin.trans hlead'.origin.symm

theorem mem_rows_of_shown (ht : t ∈ ((concurrent policy).run moves).threads)
    (hp : Shown t.past p) :
    ∃ e ∈ ((concurrent policy).run moves).state.log, p ∈ e.store.rows := by
  obtain ⟨x, hx, hp⟩ := hp
  obtain ⟨e, he, rfl⟩ := exists_mem_log ht hx
  exact ⟨e, he, MemoryStore.mem_of_find? (find?_of_mem_log he (.inl hp))⟩

theorem Swappable.backed {expected : Status} (h : Swappable t.past p expected)
    (ht : t ∈ ((concurrent policy).run moves).threads)
    (hshown : ∀ q, Shown t.past q → Backed xs q) (hpast : t.past ⊆ xs) : Backed xs p := by
  obtain ⟨q, hq⟩ := h.derives
  have hbacked := hshown q hq.shown
  have hrequest := requestOf_of_sameOrigin hq.origin
  refine ⟨hq.origin.amount ▸ hbacked.positive, fun hash hp => ?_, fun hp => ?_⟩
  · rw [hrequest]
    exact (hq.hash hash hp).elim (hbacked.hash hash) fun hmem => hpast hmem
  · obtain ⟨transactionRef, ledger, href, hledger, hconfirmed⟩ := h.completed hp
    refine ⟨transactionRef, ledger, href, hledger, ?_⟩
    have hsame : ∀ q', Shown t.past q' → q'.id = p.id → requestOf p = requestOf q' := by
      intro q' hq' hid
      rw [hrequest]
      have hid' : q'.id = q.id := hid.trans hq.origin.id
      exact (requestOf_of_sameOrigin (sameOrigin_of_shown ht hq.shown hq' hid')).symm
    rcases hconfirmed with ⟨q', hash, hq', hid, hsubmit, hconfirm⟩ | ⟨q', hq', hid, hhash, hland⟩
    · rw [hsame q' hq' hid]
      exact .inl ⟨hash, hpast hsubmit, hpast hconfirm⟩
    · rw [hsame q' hq' hid]
      exact .inr ⟨(hshown q' hq').hash transactionRef hhash, hpast hland⟩

/-- Everything that was ever stored is backed by the requests of the run. -/
theorem backed_run :
    (∀ p ∈ ((concurrent policy).run moves).state.store.rows,
      Backed (((concurrent policy).run moves).state.log.map Entry.exchange) p) ∧
    ∀ e ∈ ((concurrent policy).run moves).state.log, ∀ p ∈ e.store.rows,
      Backed (((concurrent policy).run moves).state.log.map Entry.exchange) p := by
  refine run_induction (M := concurrent policy)
    (P := fun c => (∀ p ∈ c.state.store.rows, Backed (c.state.log.map Entry.exchange) p) ∧
      ∀ e ∈ c.state.log, ∀ p ∈ e.store.rows, Backed (c.state.log.map Entry.exchange) p)
    (K := fun _ => True) (by simp [start, Shared.empty, MemoryStore.empty])
    (fun _ _ _ ih => ih) ?_ fun _ _ => trivial
  intro moves position b before op past r next after a s _ hthreads hanswer _ ih
  obtain ⟨hbehaviour, -, hlog, -⟩ := Shared.answer_eq_some hanswer
  have ht : ⟨op, past, .ask r next⟩ ∈ ((concurrent policy).run moves).threads := by
    simp [hthreads]
  have hmore : ((concurrent policy).run moves).state.log.map Entry.exchange ⊆
      s.log.map Entry.exchange := by
    simp [hlog]
  have hshown : ∀ q, Shown past q → Backed (s.log.map Entry.exchange) q := by
    intro q hq
    obtain ⟨e, he, hmem⟩ := mem_rows_of_shown ht hq
    exact (ih.2 e he q hmem).mono hmore
  -- What a thread has asked stays in the log.
  have hpast : past ⊆ s.log.map Entry.exchange :=
    fun x hx => hmore (List.mem_map.mpr (exists_mem_log ht hx))
  have hproper : Proper op past r := ((abides ht).rest).1.2
  have hstore : ∀ p ∈ s.store.rows, Backed (s.log.map Entry.exchange) p := by
    intro p hp
    have hsave : ∀ q, r ≠ .store (.save q) := by
      rintro q rfl
      exact hproper
    rcases mem_rows_of_answer hsave hbehaviour hp with hold | rfl | ⟨expected, rfl⟩
    · exact (ih.1 p hold).mono hmore
    · obtain ⟨hpositive, hpending, hhash⟩ := hproper
      exact ⟨hpositive, by simp [hhash], by simp [hpending]⟩
    · have hswap : Swappable past p expected := hproper
      exact Swappable.backed (t := ⟨op, past, _⟩) hswap ht hshown hpast
  refine ⟨hstore, fun e he p hp => ?_⟩
  rw [hlog, List.mem_append, List.mem_singleton] at he
  rcases he with he | rfl
  · exact (ih.2 e he p hp).mono hmore
  · exact hstore p hp

end Concurrent

end Disburse.Engine
