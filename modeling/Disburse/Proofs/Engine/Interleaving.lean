import Disburse.Engine.Service
import Disburse.Engine.Sweep
import Disburse.Proofs.Concurrency.Task
import Disburse.Proofs.Store.Memory

/-!
The engine's operations side by side over one memory store. Store calls and executor calls are
the steps. A store call is answered by the store or by an error, and a call that reports an error
may have acted; the executor may answer anything, return any error or crash; the clock may show
any time.
-/

namespace Disburse.Engine

/-- What the threads of the engine do. -/
inductive Operation where
  | create (new : NewPayout)
  | claim (submissionRef recipient : String)
  | retry (id : PayoutId)
  | sweep (config : SchedulerConfig)
  | execute (id : PayoutId)
  /-- An execution in the background, with its supervisor. -/
  | dispatch (id : PayoutId)
  | recover (id : PayoutId)
  | recordFailure (id : PayoutId) (reason : String)

namespace Operation

abbrev Value : Operation → Type
  | create _ => Payout
  | claim .. => Payout
  | retry _ => Payout
  | sweep _ => SweepReport
  | execute _ => Unit
  | dispatch _ => Unit
  | recover _ => Option Status
  | recordFailure .. => Option Status

def work (policy : RetryPolicy) : (op : Operation) → Work op.Value
  | create new => createPayout policy new
  | claim submissionRef recipient => claimPayout submissionRef recipient
  | retry id => retryPayout policy id
  | sweep config => Engine.sweep policy config
  | execute id => Engine.execute policy id
  | dispatch id => supervise policy id
  | recover id => Engine.recover policy id
  | recordFailure id reason => Engine.recordFailure policy id reason

/-- Operations that callers or the clock ask for. -/
def isService : Operation → Bool
  | create _ => true
  | claim .. => true
  | retry _ => true
  | sweep _ => true
  | execute _ => false
  | dispatch _ => false
  | recover _ => false
  | recordFailure .. => false

end Operation

/-- How the surroundings may behave at one request. -/
inductive Behaviour where
  /-- The store answers, and the rest does what it is asked to do. -/
  | plain
  /-- The store fails without acting. -/
  | fail (e : Error)
  /-- The store acts, and fails. -/
  | failAfter (e : Error)
  /-- The store takes a batch from its records as if they were kept in this order, which decides
  among records of one time. -/
  | shuffled (rows : List Payout)
  | submitted (hash : Outcome String)
  | confirmed (receipt : Outcome TransferReceipt)
  | found (status : Outcome Ledger.TxStatus)
  | clock (now : Instant)
  | draw (id : PayoutId)

namespace Behaviour

/-- What a behaviour answers, and the store behind it; absent if it does not go with the request. -/
def answer : Behaviour → (r : Request) → MemoryStore → Option (interface.Answer r × MemoryStore)
  | plain, .store c, s => some (s.answer c)
  | fail e, .store _, s => some (.error e, s)
  | failAfter e, .store c, s => some (.error e, (s.answer c).2)
  | shuffled rows, .store c, s =>
    if h : c.isBatch = true ∧ rows.Perm s.rows then some (((s.reordered h.2).answer c).1, s)
    else none
  | submitted hash, .transfer (.submit _), s => some (hash, s)
  | confirmed receipt, .transfer (.awaitConfirmation _), s => some (receipt, s)
  | found status, .transfer (.lookup _), s => some (status, s)
  | clock now, .now, s => some (now, s)
  | draw id, .freshId, s => some (id, s)
  | plain, .publish _, s => some ((), s)
  | plain, .dispatch _, s => some ((), s)
  | plain, .pause _, s => some ((), s)
  | _, _, _ => none

theorem answer_shuffled {rows : List Payout} {c : StoreCall} {s s' : MemoryStore} {a : c.Answer}
    (h : (shuffled rows).answer (.store c) s = some (a, s')) :
    s' = s ∧ c.isBatch = true ∧ ∃ s₁ : MemoryStore, s₁.rows.Perm s.rows ∧ a = (s₁.answer c).1 := by
  simp only [answer, Option.dite_none_right_eq_some, Option.some.injEq, Prod.mk.injEq] at h
  obtain ⟨⟨hbatch, hrows⟩, rfl, rfl⟩ := h
  exact ⟨rfl, hbatch, s.reordered hrows, hrows, rfl⟩

/-- A store call that asks for no batch is answered by the store, or by an error that may come
late. -/
theorem answer_store {b : Behaviour} {c : StoreCall} {s s' : MemoryStore} {a : c.Answer}
    (hbatch : c.isBatch = false) (h : b.answer (.store c) s = some (a, s')) :
    s.answer c = (a, s') ∨ ((∃ e, a = .error e) ∧ (s' = s ∨ s' = (s.answer c).2)) := by
  cases b with
  | plain => exact .inl (Option.some.inj h)
  | fail e =>
      obtain ⟨rfl, rfl⟩ := Prod.mk.inj (Option.some.inj h)
      exact .inr ⟨⟨e, rfl⟩, .inl rfl⟩
  | failAfter e =>
      obtain ⟨rfl, rfl⟩ := Prod.mk.inj (Option.some.inj h)
      exact .inr ⟨⟨e, rfl⟩, .inr rfl⟩
  | shuffled rows =>
      rw [(answer_shuffled h).2.1] at hbatch
      cases hbatch
  | submitted _ | confirmed _ | found _ | clock _ | draw _ => cases h

/-- A read changes nothing. It is answered from the records, in whatever order they are kept, or by
an error. -/
theorem answer_read {b : Behaviour} {c : StoreCall} {s s' : MemoryStore} {a : c.Answer}
    (hread : c.isRead = true) (h : b.answer (.store c) s = some (a, s')) :
    s' = s ∧ ((∃ s₁ : MemoryStore, s₁.rows.Perm s.rows ∧ a = (s₁.answer c).1) ∨
      ∃ e, a = .error e) := by
  have hsame : (s.answer c).2 = s := MemoryStore.answer_of_isRead hread
  cases b with
  | plain =>
      have hplain : s.answer c = (a, s') := Option.some.inj h
      rw [hplain] at hsame
      exact ⟨hsame, .inl ⟨s, .refl _, by rw [hplain]⟩⟩
  | fail e =>
      obtain ⟨rfl, rfl⟩ := Prod.mk.inj (Option.some.inj h)
      exact ⟨rfl, .inr ⟨e, rfl⟩⟩
  | failAfter e =>
      obtain ⟨rfl, rfl⟩ := Prod.mk.inj (Option.some.inj h)
      exact ⟨hsame, .inr ⟨e, rfl⟩⟩
  | shuffled rows =>
      obtain ⟨rfl, -, hanswer⟩ := answer_shuffled h
      exact ⟨rfl, .inl hanswer⟩
  | submitted _ | confirmed _ | found _ | clock _ | draw _ => cases h

theorem answer_lookup {b : Behaviour} {c : StoreCall} {s s' : MemoryStore} {a : c.Answer}
    (hread : c.isRead = true) (hbatch : c.isBatch = false)
    (h : b.answer (.store c) s = some (a, s')) :
    s' = s ∧ (a = (s.answer c).1 ∨ ∃ e, a = .error e) := by
  have hsame : (s.answer c).2 = s := MemoryStore.answer_of_isRead hread
  rcases answer_store hbatch h with hplain | ⟨herror, rfl | rfl⟩
  · rw [hplain] at hsame
    exact ⟨hsame, .inl (by rw [hplain])⟩
  · exact ⟨rfl, .inr herror⟩
  · exact ⟨hsame, .inr herror⟩

/-- A swap does nothing, and then it is not reported as won; or it replaces a record in the
expected state, and then it is not reported as lost. -/
theorem answer_saveIf {b : Behaviour} {p : Payout} {expected : Status} {s s' : MemoryStore}
    {a : Except Error Bool} (h : b.answer (.store (.saveIf p expected)) s = some (a, s')) :
    (s' = s ∧ a ≠ .ok true) ∨
      (s' = s.overwrite p ∧ a ≠ .ok false ∧
        ∃ row, s.find? p.id = some row ∧ row.status = expected) := by
  have hanswer : s.answer (.saveIf p expected) = s.saveIf p expected := rfl
  rcases s.saveIf_cases p expected with ⟨row, hrow, hstatus, hswap⟩ | ⟨hsame, hlost⟩
  · rcases answer_store rfl h with hplain | ⟨⟨e, rfl⟩, rfl | rfl⟩
    · rw [hanswer, hswap] at hplain
      obtain ⟨rfl, rfl⟩ := Prod.mk.inj hplain
      exact .inr ⟨rfl, by simp, row, hrow, hstatus⟩
    · exact .inl ⟨rfl, by simp⟩
    · exact .inr ⟨by rw [hanswer, hswap], by simp, row, hrow, hstatus⟩
  · rcases answer_store rfl h with hplain | ⟨⟨e, rfl⟩, rfl | rfl⟩
    · rw [hanswer] at hplain
      rw [hplain] at hsame hlost
      exact .inl ⟨hsame, hlost⟩
    · exact .inl ⟨rfl, by simp⟩
    · exact .inl ⟨hsame, by simp⟩

theorem answer_create {b : Behaviour} {p : Payout} {s s' : MemoryStore} {a : Except Error Unit}
    (h : b.answer (.store (.create p)) s = some (a, s')) : s' = s ∨ s' = s.insert p := by
  have hanswer : s.answer (.create p) = s.create p := rfl
  have hcases := s.create_cases p
  rcases answer_store rfl h with hplain | ⟨-, rfl | rfl⟩
  · rw [← hanswer, hplain] at hcases
    exact hcases.symm
  · exact .inl rfl
  · exact hcases.symm

theorem answer_other {b : Behaviour} {r : Request} {s s' : MemoryStore} {a : interface.Answer r}
    (hr : ∀ c, r ≠ .store c) (h : b.answer r s = some (a, s')) : s' = s := by
  unfold answer at h
  split at h
  all_goals first
    | exact absurd rfl (hr _)
    | exact (Prod.mk.inj (Option.some.inj h)).2.symm
    | cases h

end Behaviour

/-- A request with its answer, and the store behind it. -/
structure Entry where
  exchange : Exchange interface
  store : MemoryStore

/-- What all threads share. -/
structure Shared where
  store : MemoryStore
  drawn : List PayoutId
  /-- All requests so far, the first one first. -/
  log : List Entry

namespace Shared

/-- An empty store, and nothing asked yet. -/
def empty : Shared :=
  ⟨.empty, [], []⟩

def drawnBy : (r : Request) → interface.Answer r → List PayoutId
  | .freshId, id => [id]
  | _, _ => []

/-- The answers of the surroundings. With `distinct`, no identifier is drawn a second time. -/
def answer (distinct : Bool) (b : Behaviour) (r : Request) (s : Shared) :
    Option (interface.Answer r × Shared) :=
  match b.answer r s.store with
  | none => none
  | some (a, store) =>
    if distinct ∧ ∃ id ∈ drawnBy r a, id ∈ s.drawn then none
    else some (a, ⟨store, s.drawn ++ drawnBy r a, s.log ++ [⟨⟨r, a⟩, store⟩]⟩)

theorem answer_eq_some {distinct : Bool} {b : Behaviour} {r : Request} {s s' : Shared}
    {a : interface.Answer r} (h : s.answer distinct b r = some (a, s')) :
    b.answer r s.store = some (a, s'.store) ∧ s'.drawn = s.drawn ++ drawnBy r a ∧
      s'.log = s.log ++ [⟨⟨r, a⟩, s'.store⟩] ∧
      (distinct = true → ∀ id ∈ drawnBy r a, id ∉ s.drawn) := by
  unfold answer at h
  split at h
  · cases h
  · rename_i a' store hanswer
    split at h
    · cases h
    · rename_i hfresh
      obtain ⟨rfl, rfl⟩ := Prod.mk.inj (Option.some.inj h)
      exact ⟨hanswer, rfl, rfl, fun hd id hid hmem => hfresh ⟨hd, id, hid, hmem⟩⟩

end Shared

/-- The engine under a policy. `opens` says which operations may be started from outside, given
whether all earlier ones have ended. -/
abbrev machine (policy : RetryPolicy) (distinct : Bool) (opens : Operation → Bool → Bool) :
    Machine interface where
  State := Shared
  initial := .empty
  Choice := Behaviour
  answer := fun b r s => s.answer distinct b r
  Op := Operation
  Value := fun op => Outcome op.Value
  program := fun op => (op.work policy).outcome
  spawned
    | .dispatch id => some (.dispatch id)
    | _ => none
  opens := opens

/-- Any operations at any time, with identifiers that are drawn once. -/
abbrev concurrent (policy : RetryPolicy) : Machine interface :=
  machine policy true fun _ _ => true

/-- One service operation after the other: each of them ends, together with all executions that
it started, before the next one begins. -/
abbrev sequential (policy : RetryPolicy) : Machine interface :=
  machine policy false fun op idle => op.isService && idle

/-- Retries are due at once. -/
def samplePolicy : RetryPolicy :=
  ⟨⟨0⟩, 3⟩

def sampleId : PayoutId :=
  .ofNat 1

/-- A payout that can be claimed as `sub-1` by `GDEST`. -/
def samplePayout (maxRetries : Option UInt32) : NewPayout where
  recipient := "GDEST"
  amount := .ofParts false 5 0
  asset := "USDC"
  kind := .reward
  questRef := none
  submissionRef := some "sub-1"
  maxRetries := maxRetries

variable {policy : RetryPolicy} {distinct : Bool} {opens : Operation → Bool → Bool}

/-- Thread 0 records a payout, and thread 1 claims it and leaves its execution to thread 2. -/
def sampleClaim (maxRetries : Option UInt32) : List (machine policy distinct opens).Move :=
  [.start (.create (samplePayout maxRetries)),
    .resume 0 (.draw sampleId), .resume 0 (.clock .epoch), .resume 0 .plain,
    .start (.claim "sub-1" "GDEST"),
    .resume 1 .plain, .resume 1 (.clock .epoch), .resume 1 .plain, .resume 1 .plain]

/-- A sweep that finds nothing stuck, up to the swap of the first payout that is due. -/
def sampleSweep (thread : Nat) : List (machine policy distinct opens).Move :=
  [.start (.sweep ⟨300, 10, ⟨0⟩⟩), .resume thread (.clock .epoch), .resume thread .plain,
    .resume thread .plain]

/-- The sample behind its claim. -/
def sampleClaimed (maxRetries : Option UInt32) : Payout :=
  { Payout.ofNew (samplePayout maxRetries) sampleId samplePolicy.defaultMaxRetries .epoch with
    status := .processing
    claimedAt := some .epoch }

end Disburse.Engine
