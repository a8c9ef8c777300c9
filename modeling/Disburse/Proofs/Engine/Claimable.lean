import Disburse.Proofs.Engine.Demands
import Disburse.Proofs.Engine.Recovery
import Disburse.Proofs.Text.Characters

/-!
Claims of created payouts. A record leaves pending by a claim and by nothing else, so that a
payout which nobody has claimed is stored as it was created. A claim compares the stored address
with the trimmed one that is supplied: the address of the creation itself is granted if and only
if there is no white space around it, and around an address with white space nothing is.
-/

namespace Disburse.Engine

open Disburse.Machine Disburse.Task

/-- A swap of a claim that is in the store behind it, whatever it was answered. -/
def claimsRecord (id : PayoutId) (e : Entry) : Bool :=
  match e.exchange.request with
  | .store (.saveIf q .pending) => q.id = id && e.store.find? id = some q
  | _ => false

section Machine

variable {policy : RetryPolicy} {distinct : Bool} {opens : Operation → Bool → Bool}
  {moves : List (machine policy distinct opens).Move}

/-- Where a record comes from that is stored behind a request: it was there before, it was
created pending, or it was swapped in for a record in the expected state. -/
inductive Stored (s : MemoryStore) (row : Payout) : Request → Prop where
  | before (r : Request) (h : row ∈ s.rows) : Stored s row r
  | created (h : row.status = .pending) : Stored s row (.store (.create row))
  | swapped (expected : Status) (found : Payout) (h : s.find? row.id = some found)
      (hstatus : found.status = expected) : Stored s row (.store (.saveIf row expected))

theorem stored_of_answer {op : Operation} {past : List (Exchange interface)} {b : Behaviour}
    {r : Request} {a : interface.Answer r} {s s' : MemoryStore} {row : Payout}
    (hproper : Proper op past r) (hanswer : b.answer r s = some (a, s')) (hrow : row ∈ s'.rows) :
    Stored s row r := by
  cases r with
  | transfer _ | now | freshId | publish _ | dispatch _ | pause _ =>
      exact .before _ (Behaviour.answer_other (by simp) hanswer ▸ hrow)
  | store c =>
      cases c with
      | get _ | findBySubmission _ | findDue _ _ _ | findStale _ _ _ | list _ =>
          exact .before _ ((Behaviour.answer_read rfl hanswer).1 ▸ hrow)
      | save p => exact hproper.elim
      | create p =>
          rcases Behaviour.answer_create hanswer with rfl | rfl
          · exact .before _ hrow
          · rcases MemoryStore.mem_insert.mp hrow with ⟨hold, -⟩ | rfl
            · exact .before _ hold
            · exact .created hproper.2.1
      | saveIf p expected =>
          rcases Behaviour.answer_saveIf hanswer with ⟨rfl, -⟩ | ⟨rfl, -, found, hfound, hstatus⟩
          · exact .before _ hrow
          · rcases MemoryStore.mem_overwrite.mp hrow with ⟨hold, -⟩ | ⟨rfl, -⟩
            · exact .before _ hold
            · exact .swapped expected found hfound hstatus

theorem exists_claimsRecord {row : Payout}
    (hrow : row ∈ ((machine policy distinct opens).run moves).state.store.rows)
    (hstatus : row.status ≠ .pending) :
    ∃ e ∈ ((machine policy distinct opens).run moves).state.log,
      claimsRecord row.id e = true := by
  refine run_induction (M := machine policy distinct opens)
    (P := fun c => ∀ row ∈ c.state.store.rows, row.status ≠ .pending →
      ∃ e ∈ c.state.log, claimsRecord row.id e = true)
    (K := fun _ => True) (fun _ h => nomatch h) (fun _ _ _ ih => ih) ?_ (fun _ _ => trivial)
    row hrow hstatus
  intro moves position b before op past r next after a s _ hthreads hanswer _ ih row hrow hstatus
  have hmem : ⟨op, past, .ask r next⟩ ∈ ((machine policy distinct opens).run moves).threads := by
    simp [hthreads]
  obtain ⟨hbehaviour, -, hlog, -⟩ := Shared.answer_eq_some hanswer
  have hold : (∃ e ∈ ((machine policy distinct opens).run moves).state.log,
      claimsRecord row.id e = true) → ∃ e ∈ s.log, claimsRecord row.id e = true := by
    rintro ⟨e, he, hclaims⟩
    exact ⟨e, by rw [hlog]; exact List.mem_append_left _ he, hclaims⟩
  cases stored_of_answer (abides hmem).rest.1.2 hbehaviour hrow with
  | before _ h => exact hold (ih row h hstatus)
  | created h => exact absurd h hstatus
  | swapped expected found hfound hexpected =>
      by_cases hpending : expected = .pending
      · subst hpending
        refine ⟨_, by rw [hlog]; exact List.mem_append_right _ (List.mem_singleton_self _), ?_⟩
        have hnow : s.store.find? row.id = some row := MemoryStore.find?_of_mem hrow
        simp [claimsRecord, hnow]
      · obtain ⟨e, he, hclaims⟩ := ih found (MemoryStore.mem_of_find? hfound)
          (hexpected ▸ hpending)
        exact hold ⟨e, he, by rwa [MemoryStore.find?_id hfound] at hclaims⟩

theorem find?_of_creation {e : Entry} {p : Payout}
    (he : e ∈ ((machine policy distinct opens).run moves).state.log)
    (hcreation : e.exchange = creation p (.ok ())) : e.store.find? p.id = some p := by
  refine run_induction (M := machine policy distinct opens)
    (P := fun c => ∀ e ∈ c.state.log, ∀ p, e.exchange = creation p (.ok ()) →
      e.store.find? p.id = some p)
    (K := fun _ => True) (fun _ h => nomatch h) (fun _ _ _ ih => ih) ?_ (fun _ _ => trivial)
    e he p hcreation
  intro moves position b before op past r next after a s _ _ hanswer _ ih e he p hcreation
  obtain ⟨hbehaviour, -, hlog, -⟩ := Shared.answer_eq_some hanswer
  rw [hlog, List.mem_append, List.mem_singleton] at he
  rcases he with he | rfl
  · exact ih e he p hcreation
  · cases hcreation
    rcases Behaviour.answer_store rfl hbehaviour with hplain | ⟨⟨e, herror⟩, -⟩
    · have hstore : s.store = ((machine policy distinct opens).run moves).state.store.insert p :=
        (congrArg Prod.snd hplain).symm.trans (MemoryStore.create_of_ok (congrArg Prod.fst hplain))
      exact hstore ▸ MemoryStore.find?_insert_self
    · cases herror

end Machine

variable {policy : RetryPolicy} {moves : List (concurrent policy).Move} {new : NewPayout}
  {past : List (Exchange interface)} {p : Payout} {submissionRef : String}

theorem ends_of_create {o : Outcome Payout}
    (ht : ⟨.create new, past, .done o⟩ ∈ ((concurrent policy).run moves).threads) :
    CreateEnds policy new past o := by
  let final : (op : Operation) → Outcome op.Value → List (Exchange interface) → Prop
    | .create new => fun o past => CreateEnds policy new past o
    | _ => fun _ _ => True
  have habides : Thread.Abides (fun _ => Code.free interface) final
      (⟨.create new, past, .done o⟩ : (concurrent policy).Thread) := by
    refine abides_of_mem_run (fun op => ?_) (fun _ _ _ _ _ _ _ => trivial) ht
    cases op with
    | create new => exact heeds_create
    | claim _ _ | retry _ | sweep _ | execute _ | dispatch _ | recover _ | recordFailure _ _ =>
        exact Code.obeys_free
  exact habides.rest

theorem stored_of_unclaimed
    (ht : ⟨.create new, past, .done (.ok p)⟩ ∈ ((concurrent policy).run moves).threads)
    (hunclaimed : ∀ e ∈ ((concurrent policy).run moves).state.log, claimsRecord p.id e = false) :
    p ∈ ((concurrent policy).run moves).state.store.rows ∧
      ∃ id now, p = .ofNew new id policy.defaultMaxRetries now := by
  cases ends_of_create ht with
  | created id now =>
      refine ⟨?_, id, now, rfl⟩
      have hasked : creation (.ofNew new id policy.defaultMaxRetries now) (.ok ()) ∈
          [⟨.freshId, id⟩, ⟨.now, now⟩,
            creation (.ofNew new id policy.defaultMaxRetries now) (.ok ())] := by
        simp
      obtain ⟨e, he, hcreation⟩ := exists_mem_log ht hasked
      obtain ⟨row, hrow, hlead⟩ := leadsTo_of_mem_log he (find?_of_creation he hcreation)
      have hmem := MemoryStore.mem_of_find? hrow
      have hpending : row.status = .pending := by
        by_contra hstatus
        obtain ⟨e, he, hclaims⟩ := exists_claimsRecord hmem hstatus
        rw [MemoryStore.find?_id hrow, hunclaimed e he] at hclaims
        cases hclaims
      rwa [hlead.pending hpending] at hmem

/-- A claim that sends the record `p` into processing. -/
structure Grants (p : Payout) (s : MemoryStore) (o : Outcome Payout) (s' : MemoryStore)
    (past : List (Exchange interface)) : Prop where
  claimed : ∃ now claimed, p.markClaimed now = .ok claimed ∧ o = .ok claimed ∧
    claimed.status = .processing ∧ s' = s.overwrite claimed ∧ s'.find? p.id = some claimed
  dispatched : dispatched past = [p.id]

/-- A claim that is refused for the address that was supplied. -/
structure Mismatches (p : Payout) (supplied : String) (s : MemoryStore) (o : Outcome Payout)
    (s' : MemoryStore) (past : List (Exchange interface)) : Prop where
  outcome : o = .error (.error (.mismatch p.recipient (Text.trim supplied)))
  stored : s' = s
  dispatched : dispatched past = []

section Calm

variable {σ : Type} {answer : Surroundings interface σ} {view : σ → MemoryStore} {u : σ}

/-- A claim of a claimable payout is granted if the trimmed address is the stored one, and is
refused otherwise. -/
theorem Calm.ends_claimPayout (calm : Calm answer view)
    (hfind : (view u).findSubmission? submissionRef = some p) (hclaimable : p.isClaimable = true)
    (supplied : String) :
    (claimPayout submissionRef supplied).Ends answer (fun o u' past =>
      (Text.trim supplied = p.recipient → Grants p (view u) o (view u') past) ∧
      (Text.trim supplied ≠ p.recipient → Mismatches p supplied (view u) o (view u') past))
      u [] := by
  unfold claimPayout
  rw [ends_bind]
  refine calm.ends_read rfl fun u₁ _ hstore₁ => ?_
  have hanswer : ((view u).answer (.findBySubmission submissionRef)).1 = .ok (some p) :=
    congrArg Except.ok hfind
  rw [hanswer]
  dsimp only [Outcome.ofExcept]
  rw [if_neg (not_not.mpr hclaimable)]
  split
  · rename_i hne
    rw [ends_bind, ends_fail]
    exact ⟨fun h => absurd h hne, fun _ => ⟨rfl, hstore₁, rfl⟩⟩
  rename_i heq
  rw [not_not] at heq
  rw [ends_bind, calm.ends_now]
  obtain ⟨claimed, hclaimed⟩ := Payout.exists_markClaimed hclaimable (answer .now u₁).1
  obtain ⟨hpending, hfields⟩ := Payout.markClaimed_eq_ok hclaimed
  have hid : claimed.id = p.id := by rw [hfields]
  have hstored : (view u).find? p.id = some p :=
    MemoryStore.find?_of_mem (MemoryStore.mem_of_findSubmission? hfind)
  have hstore₂ : view (answer .now u₁).2 = view u := calm.kept_now.trans hstore₁
  have hrow : (view (answer .now u₁).2).find? claimed.id = some p := by
    rw [hstore₂, hid, hstored]
  dsimp only
  rw [hclaimed, ends_bind, ends_ofOutcome]
  dsimp only
  rw [ends_bind]
  refine calm.ends_saveIf hrow hpending fun u₃ _ hstore₃ => ?_
  simp only [if_true, ends_bind, ends_dispatch, ends_pure]
  refine ⟨fun _ => ?_, absurd heq⟩
  have hstore₄ : view (answer (.dispatch p.id) u₃).2 = (view u).overwrite claimed := by
    rw [calm.kept _ _ (by simp), hstore₃, hstore₂]
  refine ⟨⟨_, claimed, hclaimed, rfl, by rw [hfields], hstore₄, ?_⟩, rfl⟩
  rw [hstore₄, ← hid]
  exact MemoryStore.find?_overwrite_self (hid ▸ hstored)

/-- A created payout that nobody has claimed, whatever else has happened since, is granted to the
address that it was created with if there is no white space around that address. If there is, no
address at all is granted the payout. -/
theorem claimable_by_recipient
    (ht : ⟨.create new, past, .done (.ok p)⟩ ∈ ((concurrent policy).run moves).threads)
    (hsubmission : new.submissionRef = some submissionRef)
    (hunclaimed : ∀ e ∈ ((concurrent policy).run moves).state.log, claimsRecord p.id e = false)
    (calm : Calm answer view) (hu : view u = ((concurrent policy).run moves).state.store) :
    (Text.trim new.recipient = new.recipient →
      (claimPayout submissionRef new.recipient).Ends answer
        (fun o u' past => Grants p (view u) o (view u') past) u []) ∧
    (Text.trim new.recipient ≠ new.recipient → ∀ supplied,
      (claimPayout submissionRef supplied).Ends answer
        (fun o u' past => Mismatches p supplied (view u) o (view u') past) u []) := by
  obtain ⟨hmem, id, now, rfl⟩ := stored_of_unclaimed ht hunclaimed
  have hfind : (view u).findSubmission? submissionRef =
      some (.ofNew new id policy.defaultMaxRetries now) := by
    rw [hu]
    cases hfind : ((concurrent policy).run moves).state.store.findSubmission? submissionRef with
    | none => exact absurd hsubmission (findSubmission?_eq_none hfind _ hmem)
    | some row =>
        have href : row.submissionRef = some submissionRef := by
          simpa using List.find?_some hfind
        rw [submissionsDistinct_run moves row (MemoryStore.mem_of_findSubmission? hfind) _ hmem
          submissionRef href hsubmission]
  have hclaim := fun supplied => calm.ends_claimPayout hfind rfl supplied
  constructor
  · intro htrim
    exact (hclaim new.recipient).imp fun _ _ _ h => h.1 htrim
  · intro hpadded supplied
    refine (hclaim supplied).imp fun _ _ _ h => h.2 ?_
    rintro htrim
    have htrim' : Text.trim supplied = new.recipient := htrim
    rw [← htrim', Text.trim_trim] at hpadded
    exact hpadded rfl

end Calm

/-- Thread 0 creates a payout. -/
def sampleCreate (new : NewPayout) : List (concurrent samplePolicy).Move :=
  [.start (.create new), .resume 0 (.draw sampleId), .resume 0 (.clock .epoch), .resume 0 .plain]

def sampleCreated (new : NewPayout) : Payout :=
  .ofNew new sampleId samplePolicy.defaultMaxRetries .epoch

/-- The thread behind its creation. -/
def sampleCreator (new : NewPayout) : (concurrent samplePolicy).Thread :=
  ⟨.create new, [⟨.freshId, sampleId⟩, ⟨.now, .epoch⟩, creation (sampleCreated new) (.ok ())],
    .done (.ok (sampleCreated new))⟩

def sampleStore (new : NewPayout) : MemoryStore :=
  ((concurrent samplePolicy).run (sampleCreate new)).state.store

theorem claimable_by_sampleRecipient :
    sampleCreator (samplePayout none) ∈
        ((concurrent samplePolicy).run (sampleCreate (samplePayout none))).threads ∧
      (∀ e ∈ ((concurrent samplePolicy).run (sampleCreate (samplePayout none))).state.log,
        claimsRecord sampleId e = false) ∧
      Text.trim "GDEST" = "GDEST" ∧
      (claimPayout "sub-1" "GDEST").Ends (sampleSurroundings (.error .crash))
        (fun o s past => Grants (sampleCreated (samplePayout none))
          (sampleStore (samplePayout none)) o s past) (sampleStore (samplePayout none)) [] := by
  have hcreator : sampleCreator (samplePayout none) ∈
      ((concurrent samplePolicy).run (sampleCreate (samplePayout none))).threads :=
    List.mem_singleton_self _
  have hunclaimed : ∀ e ∈ ((concurrent samplePolicy).run
      (sampleCreate (samplePayout none))).state.log, claimsRecord sampleId e = false := by
    decide +kernel
  have htrim : Text.trim "GDEST" = "GDEST" := by decide +kernel
  have hclaim := claimable_by_recipient hcreator rfl hunclaimed
    (calm_sampleSurroundings (.error .crash)) (u := sampleStore (samplePayout none)) rfl
  exact ⟨hcreator, hunclaimed, htrim, hclaim.1 htrim⟩

/-- The first payout, with white space around its address. -/
def samplePadded : NewPayout :=
  { samplePayout none with recipient := " GDEST " }

/-- A payout whose address has white space around it is created, and refused to that address. -/
theorem unclaimable_padded_recipient :
    ¬ ∀ (policy : RetryPolicy) (moves : List (concurrent policy).Move) (new : NewPayout)
        (past : List (Exchange interface)) (p : Payout) (submissionRef : String),
      ⟨.create new, past, .done (.ok p)⟩ ∈ ((concurrent policy).run moves).threads →
      new.submissionRef = some submissionRef →
      (∀ e ∈ ((concurrent policy).run moves).state.log, claimsRecord p.id e = false) →
      ∀ (σ : Type) (answer : Surroundings interface σ) (view : σ → MemoryStore) (u : σ),
        Calm answer view → view u = ((concurrent policy).run moves).state.store →
        (claimPayout submissionRef new.recipient).Ends answer
          (fun o _ _ => ∃ claimed, o = .ok claimed) u [] := by
  intro h
  have hcreator : sampleCreator samplePadded ∈
      ((concurrent samplePolicy).run (sampleCreate samplePadded)).threads :=
    List.mem_singleton_self _
  have hunclaimed : ∀ e ∈ ((concurrent samplePolicy).run (sampleCreate samplePadded)).state.log,
      claimsRecord sampleId e = false := by
    decide +kernel
  obtain ⟨claimed, hgranted⟩ := h _ _ samplePadded _ _ "sub-1" hcreator rfl hunclaimed _ _ _
    (sampleStore samplePadded) (calm_sampleSurroundings (.error .crash)) rfl
  have hfind : (sampleStore samplePadded).findSubmission? "sub-1" =
      some (sampleCreated samplePadded) := by
    decide +kernel
  have hpadded : Text.trim " GDEST " ≠ " GDEST " := by decide +kernel
  have hrefused := (calm_sampleSurroundings (.error .crash)).ends_claimPayout hfind rfl " GDEST "
  cases hgranted.symm.trans (hrefused.2 hpadded).outcome

end Disburse.Engine
