import Disburse.Proofs.Engine.Journal
import Disburse.Proofs.Engine.RecordLaws

/-!
Claims of one submission side by side with everything else. A claim looks its payout up, checks
what it found, and swaps; of all the claims of a submission at most one wins, since nothing leads
back to a pending record. Those that begin later find the record taken.
-/

namespace Disburse.Engine

open Disburse.Machine

variable {submissionRef recipient : String} {policy : RetryPolicy} {p : Payout}

def lookedUp (submissionRef : String) (found : Except Error (Option Payout)) :
    Exchange interface :=
  ⟨.store (.findBySubmission submissionRef), found⟩

def claimSwap (p : Payout) (answer : Except Error Bool) : Exchange interface :=
  ⟨.store (.saveIf p .pending), answer⟩

/-- The answer to a claim that comes too late. -/
def taken (id : PayoutId) (status : Status) : Outcome Payout :=
  .error (.error (.invalidState id.toText status "payout has already been claimed"))

/-- How a claim may end, and what it has asked for until then. -/
inductive ClaimEnds (submissionRef recipient : String) :
    List (Exchange interface) → Outcome Payout → Prop where
  | unread (e : Error) :
    ClaimEnds submissionRef recipient [lookedUp submissionRef (.error e)] (.error (.error e))
  | missing :
    ClaimEnds submissionRef recipient [lookedUp submissionRef (.ok none)]
      (.error (.error (.notFound s!"submission {submissionRef}")))
  | settled (p : Payout) (h : p.isClaimable = false) :
    ClaimEnds submissionRef recipient [lookedUp submissionRef (.ok (some p))]
      (taken p.id p.status)
  | mismatched (p : Payout) (h : p.isClaimable = true) (hne : Text.trim recipient ≠ p.recipient) :
    ClaimEnds submissionRef recipient [lookedUp submissionRef (.ok (some p))]
      (.error (.error (.mismatch p.recipient (Text.trim recipient))))
  /-- The clock stands before 1970. -/
  | untimed (p : Payout) (now : Instant) (h : p.isClaimable = true) (hnow : now.seconds < 0) :
    ClaimEnds submissionRef recipient [lookedUp submissionRef (.ok (some p)), ⟨.now, now⟩]
      (.error .crash)
  | unwritten (p claimed : Payout) (now : Instant) (e : Error)
      (h : p.markClaimed now = .ok claimed) :
    ClaimEnds submissionRef recipient [lookedUp submissionRef (.ok (some p)), ⟨.now, now⟩,
      claimSwap claimed (.error e)] (.error (.error e))
  | lost (p claimed : Payout) (now : Instant) (h : p.markClaimed now = .ok claimed) :
    ClaimEnds submissionRef recipient [lookedUp submissionRef (.ok (some p)), ⟨.now, now⟩,
      claimSwap claimed (.ok false)] (taken p.id .processing)
  | granted (p claimed : Payout) (now : Instant) (h : p.markClaimed now = .ok claimed) :
    ClaimEnds submissionRef recipient [lookedUp submissionRef (.ok (some p)), ⟨.now, now⟩,
      wonSwap claimed .pending, ⟨.dispatch p.id, ()⟩] (.ok claimed)

theorem heeds_request {c : StoreCall} {past : List (Exchange interface)} :
    (Code.free interface).Heeds (store c)
      (fun o past' => ∃ a : c.Answer, o = .ofExcept a ∧ past' = past ++ [⟨.store c, a⟩]) past := by
  constructor
  · exact trivial
  · intro a _
    exact ⟨a, rfl, rfl⟩

theorem heeds_now_bind {α : Type} {f : Instant → Work α} {past : List (Exchange interface)}
    {Q : Outcome α → List (Exchange interface) → Prop}
    (h : ∀ now, 0 ≤ now.seconds →
      (Code.free interface).Heeds (f now) Q (past ++ [⟨.now, now⟩]))
    (hcrash : ∀ now, now.seconds < 0 → Q (.error .crash) (past ++ [⟨.now, now⟩])) :
    (Code.free interface).Heeds (now >>= f) Q past := by
  refine Code.Heeds.bind (t := Engine.now) (R := fun o past' => ∃ now : Instant,
    o = .ofInRange now.reading? ∧ past' = past ++ [⟨.now, now⟩])
    ⟨trivial, fun now _ => ⟨now, rfl, rfl⟩⟩ ?_ ?_
  · rintro _ _ ⟨now, hnow, rfl⟩
    have hreading : now.reading? = some _ := Outcome.ofInRange_eq_ok_iff.mp hnow.symm
    obtain ⟨hseconds, rfl⟩ := Instant.reading?_eq_some_iff.mp hreading
    exact h now hseconds
  · rintro e _ ⟨now, hnow, rfl⟩
    obtain ⟨hnone, rfl⟩ := Outcome.ofInRange_eq_error_iff.mp hnow.symm
    exact hcrash now (Instant.reading?_eq_none_iff.mp hnone)

theorem heeds_claim_swap {claimed : Payout} {now : Instant} (h : p.markClaimed now = .ok claimed) :
    (Code.free interface).Heeds (do
        if ← store (.saveIf claimed .pending) then
          dispatch p.id
          return claimed
        else invalidState p.id .processing "payout has already been claimed")
      (fun o past => ClaimEnds submissionRef recipient past o)
      [lookedUp submissionRef (.ok (some p)), ⟨.now, now⟩] := by
  refine Code.Heeds.bind heeds_request ?_ ?_
  · rintro won past ⟨e | won', hwon, rfl⟩
    · cases hwon
    obtain rfl := Except.ok.inj hwon
    cases won with
    | false => exact ClaimEnds.lost p claimed now h
    | true => exact ⟨trivial, fun _ _ => ClaimEnds.granted p claimed now h⟩
  · rintro e past ⟨e' | won, he, rfl⟩
    · obtain rfl := Except.error.inj he
      exact ClaimEnds.unwritten p claimed now e' h
    · cases he

theorem heeds_claim : (Code.free interface).Heeds (claimPayout submissionRef recipient)
    (fun o past => ClaimEnds submissionRef recipient past o) [] := by
  unfold claimPayout
  refine Code.Heeds.bind heeds_request ?_ ?_
  · rintro found past ⟨e | found', hfound, rfl⟩
    · cases hfound
    obtain rfl := Except.ok.inj hfound
    cases found with
    | none => exact ClaimEnds.missing
    | some p =>
        dsimp only
        split
        · rename_i hclaimable
          exact ClaimEnds.settled p (by simpa using hclaimable)
        rename_i hclaimable
        rw [Bool.not_eq_true, Bool.not_eq_false] at hclaimable
        split
        · rename_i hne
          exact ClaimEnds.mismatched p hclaimable hne
        refine heeds_now_bind (fun now _ => ?_) fun now hnow => .untimed p now hclaimable hnow
        obtain ⟨claimed, hclaimed⟩ := Payout.exists_markClaimed hclaimable now
        rw [hclaimed]
        exact heeds_claim_swap hclaimed
  · rintro e past ⟨e' | found, he, rfl⟩
    · obtain rfl := Except.error.inj he
      exact ClaimEnds.unread e'
    · cases he

theorem ends_of_claim {moves : List (concurrent policy).Move} {past : List (Exchange interface)}
    {o : Outcome Payout}
    (ht : ⟨.claim submissionRef recipient, past, .done o⟩ ∈
      ((concurrent policy).run moves).threads) : ClaimEnds submissionRef recipient past o := by
  let final : (op : Operation) → Outcome op.Value → List (Exchange interface) → Prop
    | .claim submissionRef recipient => fun o past => ClaimEnds submissionRef recipient past o
    | _ => fun _ _ => True
  have habides : Thread.Abides (fun _ => Code.free interface) final
      (⟨.claim submissionRef recipient, past, .done o⟩ : (concurrent policy).Thread) := by
    refine abides_of_mem_run (fun op => ?_) (fun _ _ _ _ _ _ _ => trivial) ht
    cases op with
    | claim submissionRef recipient => exact heeds_claim
    | create _ | retry _ | sweep _ | execute _ | dispatch _ | recover _ | recordFailure _ _ =>
        exact Code.obeys_free
  exact habides.rest

/-- No two stored records are for one submission. -/
def SubmissionsDistinct (s : MemoryStore) : Prop :=
  ∀ p ∈ s.rows, ∀ q ∈ s.rows, ∀ submissionRef,
    p.submissionRef = some submissionRef → q.submissionRef = some submissionRef → p = q

/-- The record of a submission is pending no more. -/
def Taken (s : MemoryStore) (submissionRef : String) : Prop :=
  ∃ row ∈ s.rows, row.submissionRef = some submissionRef ∧ row.status ≠ .pending

theorem findSubmission?_eq_none {s : MemoryStore} (h : s.findSubmission? submissionRef = none) :
    ∀ row ∈ s.rows, row.submissionRef ≠ some submissionRef := by
  intro row hrow
  simpa using List.find?_eq_none.mp h row hrow

theorem create_of_insert {s : MemoryStore} (p : Payout) :
    (s.create p).2 = s ∨ ((s.create p).2 = s.insert p ∧
      ∀ submissionRef, p.submissionRef = some submissionRef →
        s.findSubmission? submissionRef = none) := by
  unfold MemoryStore.create
  cases hsubmission : p.submissionRef with
  | none => exact .inr ⟨rfl, nofun⟩
  | some submissionRef =>
      cases hfind : s.findSubmission? submissionRef with
      | some row => exact .inl (by simp [hfind])
      | none =>
          refine .inr ⟨by simp [hfind], fun submissionRef' hsubmission' => ?_⟩
          obtain rfl := Option.some.inj hsubmission'
          exact hfind

theorem rows_answer {b : Behaviour} {r : Request} {a : interface.Answer r} {s s' : MemoryStore}
    (hsave : ∀ p, r ≠ .store (.save p)) (h : b.answer r s = some (a, s')) :
    (∀ q ∈ s'.rows, ∃ p, s.find? q.id = some p) ∨
    ∃ p, s' = s.insert p ∧
      ∀ submissionRef, p.submissionRef = some submissionRef →
        s.findSubmission? submissionRef = none := by
  have hsame : s' = s → ∀ q ∈ s'.rows, ∃ p, s.find? q.id = some p :=
    fun h q hq => ⟨q, MemoryStore.find?_of_mem (h ▸ hq)⟩
  cases r with
  | now | freshId | pause _ | publish _ | dispatch _ | transfer _ =>
      exact .inl (hsame (Behaviour.answer_other (by simp) h))
  | store c =>
      cases c with
      | get _ | findBySubmission _ | findDue _ _ _ | findStale _ _ _ | list _ =>
          exact .inl (hsame (Behaviour.answer_read rfl h).1)
      | save p => exact absurd rfl (hsave p)
      | saveIf p expected =>
          rcases Behaviour.answer_saveIf h with ⟨heq, -⟩ | ⟨heq, -, row, hrow, -⟩
          · exact .inl (hsame heq)
          · refine .inl fun q hq => ?_
            rw [heq, MemoryStore.mem_overwrite] at hq
            rcases hq with ⟨hq, -⟩ | ⟨rfl, -⟩
            · exact ⟨q, MemoryStore.find?_of_mem hq⟩
            · exact ⟨row, hrow⟩
      | create p =>
          have hcreate : s' = s ∨ s' = (s.create p).2 := by
            rcases Behaviour.answer_store rfl h with hplain | ⟨-, hstore⟩
            · exact .inr (congrArg Prod.snd hplain).symm
            · exact hstore
          rcases hcreate with heq | heq
          · exact .inl (hsame heq)
          · rcases create_of_insert p with hrefused | ⟨hinsert, hfree⟩
            · exact .inl (hsame (heq.trans hrefused))
            · exact .inr ⟨p, heq.trans hinsert, hfree⟩

variable {moves : List (concurrent policy).Move}

/-- A move creates a record for a submission that has none, or all records behind it are versions
of records in front of it. -/
theorem rows_step (moves : List (concurrent policy).Move) (move : (concurrent policy).Move) :
    (∀ q ∈ (((concurrent policy).run moves).step move).state.store.rows,
      ∃ p ∈ ((concurrent policy).run moves).state.store.rows, p.LeadsTo q) ∨
    ∃ p, (((concurrent policy).run moves).step move).state.store =
        ((concurrent policy).run moves).state.store.insert p ∧
      ∀ submissionRef, p.submissionRef = some submissionRef →
        ((concurrent policy).run moves).state.store.findSubmission? submissionRef = none := by
  have hversions : (∀ q ∈ (((concurrent policy).run moves).step move).state.store.rows,
      ∃ p, ((concurrent policy).run moves).state.store.find? q.id = some p) →
      ∀ q ∈ (((concurrent policy).run moves).step move).state.store.rows,
        ∃ p ∈ ((concurrent policy).run moves).state.store.rows, p.LeadsTo q := by
    intro h q hq
    obtain ⟨p, hp⟩ := h q hq
    obtain ⟨q', hq', hnext⟩ := followedBy_step hp move
    rw [MemoryStore.find?_of_mem hq] at hq'
    obtain rfl := Option.some.inj hq'
    refine ⟨p, MemoryStore.mem_of_find? hp, ?_⟩
    rcases hnext with rfl | hfollowed
    · exact .refl q
    · exact hfollowed.leadsTo
  refine Or.imp_left hversions ?_
  obtain hstep | ⟨op, -, -, hstep⟩ | ⟨-, b, -, before, op, past, r, next, after, a, s, hthreads,
    hanswer, hstep⟩ := ((concurrent policy).run moves).step_cases move
  · exact .inl fun q hq => ⟨q, MemoryStore.find?_of_mem (hstep ▸ hq)⟩
  · rw [hstep]
    exact .inl fun q hq => ⟨q, MemoryStore.find?_of_mem hq⟩
  · have hmem : ⟨op, past, .ask r next⟩ ∈ ((concurrent policy).run moves).threads := by
      simp [hthreads]
    have hproper : Proper op past r := (abides hmem).rest.1.2
    rw [hstep]
    refine rows_answer ?_ (Shared.answer_eq_some hanswer).1
    rintro p rfl
    exact hproper

theorem submissionsDistinct_run (moves : List (concurrent policy).Move) :
    SubmissionsDistinct ((concurrent policy).run moves).state.store := by
  induction moves using List.reverseRecOn with
  | nil => exact fun p hp => nomatch hp
  | append_singleton moves move ih =>
      rw [run_append_singleton]
      intro q hq q' hq' submissionRef hsubmission hsubmission'
      rcases rows_step moves move with hversions | ⟨p, hstore, hfree⟩
      · obtain ⟨p, hp, hlead⟩ := hversions q hq
        obtain ⟨p', hp', hlead'⟩ := hversions q' hq'
        have heq : p = p' := ih p hp p' hp' submissionRef
          (hlead.origin.submissionRef ▸ hsubmission) (hlead'.origin.submissionRef ▸ hsubmission')
        have hid : q.id = q'.id := by rw [hlead.origin.id, hlead'.origin.id, heq]
        have hfind := MemoryStore.find?_of_mem hq
        rw [hid, MemoryStore.find?_of_mem hq'] at hfind
        exact (Option.some.inj hfind).symm
      · rw [hstore, MemoryStore.mem_insert] at hq hq'
        rcases hq with ⟨hq, -⟩ | rfl
        · rcases hq' with ⟨hq', -⟩ | rfl
          · exact ih q hq q' hq' submissionRef hsubmission hsubmission'
          · exact absurd hsubmission (findSubmission?_eq_none (hfree _ hsubmission') q hq)
        · rcases hq' with ⟨hq', -⟩ | rfl
          · exact absurd hsubmission' (findSubmission?_eq_none (hfree _ hsubmission) q' hq')
          · rfl

theorem Taken.later (h : Taken ((concurrent policy).run moves).state.store submissionRef)
    (more : List (concurrent policy).Move) :
    Taken ((concurrent policy).run (moves ++ more)).state.store submissionRef := by
  obtain ⟨row, hrow, hsubmission, hstatus⟩ := h
  obtain ⟨row', hrow', hlead⟩ := copies.exists_later (MemoryStore.find?_of_mem hrow) more
  refine ⟨row', MemoryStore.mem_of_find? hrow', hlead.origin.submissionRef.trans hsubmission,
    fun hpending => hstatus ?_⟩
  rwa [hlead.pending hpending] at hpending

/-- A won swap of a claim. -/
def isClaimSwap (submissionRef : String) (x : Exchange interface) : Bool :=
  match x with
  | ⟨.store (.saveIf p .pending), .ok true⟩ => p.submissionRef = some submissionRef
  | _ => false

theorem isClaimSwap_iff {x : Exchange interface} : isClaimSwap submissionRef x = true ↔
    ∃ p, x = wonSwap p .pending ∧ p.submissionRef = some submissionRef := by
  constructor
  · intro h
    unfold isClaimSwap at h
    split at h
    · rename_i p
      exact ⟨p, rfl, of_decide_eq_true h⟩
    · cases h
  · rintro ⟨p, rfl, h⟩
    exact decide_eq_true h

/-- How many claims of a submission have won their swaps. -/
def claimSwaps (submissionRef : String) (log : List Entry) : Nat :=
  (log.map Entry.exchange).countP (isClaimSwap submissionRef)

theorem followedBy_of_won {op : Operation} {past : List (Exchange interface)} {b : Behaviour}
    {expected : Status} {next : Except Error Bool → Program interface (Outcome op.Value)}
    {s : Shared}
    (hmem : ⟨op, past, .ask (.store (.saveIf p expected)) next⟩ ∈
      ((concurrent policy).run moves).threads)
    (hanswer : ((concurrent policy).run moves).state.answer true b (.store (.saveIf p expected)) =
      some (.ok true, s)) :
    ∃ row, ((concurrent policy).run moves).state.store.find? p.id = some row ∧
      row.status = expected ∧ row.FollowedBy p ∧ p ∈ s.store.rows := by
  obtain ⟨-, hlost⟩ | ⟨hstore, -, row, hrow, hstatus⟩ :=
    Behaviour.answer_saveIf (Shared.answer_eq_some hanswer).1
  · exact absurd rfl hlost
  have hpermits : Advances _ s ∧ ∀ q e, Request.store (.saveIf p expected) = .store (.saveIf q e) →
      Swaps _ past q e := (copies.adequate policy).permits_of_mem b hmem hanswer
  obtain ⟨reserved, hsound⟩ := (copies.adequate policy).holds_run moves
  refine ⟨row, hrow, hstatus, (Swaps.followedBy (hpermits.2 _ _ rfl) hsound hrow hstatus).2, ?_⟩
  rw [hstore]
  exact MemoryStore.mem_of_find? (MemoryStore.find?_overwrite_self hrow)

theorem claimSwaps_answer {x : Exchange interface} {s s' : Shared}
    (hlog : s'.log.map Entry.exchange = s.log.map Entry.exchange ++ [x]) :
    claimSwaps submissionRef s'.log =
      claimSwaps submissionRef s.log + if isClaimSwap submissionRef x then 1 else 0 := by
  rw [claimSwaps, claimSwaps, hlog, List.countP_append, List.countP_cons, List.countP_nil,
    Nat.zero_add]

/-- A claim wins its swap over a pending record, so that its submission was not taken before. -/
theorem taken_of_claimSwap {op : Operation} {past : List (Exchange interface)} {b : Behaviour}
    {r : Request} {next : interface.Answer r → Program interface (Outcome op.Value)}
    {a : interface.Answer r} {s : Shared}
    (hmem : ⟨op, past, .ask r next⟩ ∈ ((concurrent policy).run moves).threads)
    (hanswer : ((concurrent policy).run moves).state.answer true b r = some (a, s))
    (hswap : isClaimSwap submissionRef ⟨r, a⟩ = true) :
    ¬ Taken ((concurrent policy).run moves).state.store submissionRef ∧
      Taken s.store submissionRef := by
  obtain ⟨p, hx, hsubmission⟩ := isClaimSwap_iff.mp hswap
  cases hx
  obtain ⟨row, hrow, hstatus, hfollowed, hp⟩ := followedBy_of_won hmem hanswer
  constructor
  · rintro ⟨row', hrow', hsubmission', hstatus'⟩
    have hrow_ref : row.submissionRef = some submissionRef :=
      hfollowed.origin.submissionRef ▸ hsubmission
    obtain rfl := submissionsDistinct_run moves row (MemoryStore.mem_of_find? hrow) row' hrow'
      submissionRef hrow_ref hsubmission'
    exact hstatus' hstatus
  · refine ⟨p, hp, hsubmission, ?_⟩
    have hsuccessor := hfollowed.status
    rw [hstatus] at hsuccessor
    simp only [Status.successors, List.mem_singleton] at hsuccessor
    simp [hsuccessor]

/-- At most one claim of a submission wins its swap, and then the submission is taken. -/
theorem claimSwaps_run (submissionRef : String) (moves : List (concurrent policy).Move) :
    claimSwaps submissionRef ((concurrent policy).run moves).state.log ≤ 1 ∧
      (0 < claimSwaps submissionRef ((concurrent policy).run moves).state.log →
        Taken ((concurrent policy).run moves).state.store submissionRef) := by
  induction moves using List.reverseRecOn with
  | nil => exact ⟨Nat.zero_le _, fun h => absurd h (Nat.lt_irrefl 0)⟩
  | append_singleton moves move ih =>
      obtain ⟨hle, htaken⟩ := ih
      have hlater : 0 < claimSwaps submissionRef ((concurrent policy).run moves).state.log →
          Taken ((concurrent policy).run (moves ++ [move])).state.store submissionRef :=
        fun h => (htaken h).later [move]
      have hrun := run_append_singleton moves move
      obtain hstep | ⟨op, -, -, hstep⟩ | ⟨-, b, -, before, op, past, r, next, after, a, s, hthreads,
        hanswer, hstep⟩ := ((concurrent policy).run moves).step_cases move
      · rw [hrun, hstep] at hlater ⊢
        exact ⟨hle, hlater⟩
      · rw [hrun, hstep] at hlater ⊢
        exact ⟨hle, hlater⟩
      rw [hrun, hstep] at hlater ⊢
      have hlog : s.log.map Entry.exchange =
          ((concurrent policy).run moves).state.log.map Entry.exchange ++ [⟨r, a⟩] := by
        rw [(Shared.answer_eq_some hanswer).2.2.1, List.map_append]
        rfl
      dsimp only at hlater ⊢
      rw [claimSwaps_answer hlog]
      by_cases hswap : isClaimSwap submissionRef ⟨r, a⟩ = true
      · have hmem : ⟨op, past, .ask r next⟩ ∈ ((concurrent policy).run moves).threads := by
          rw [hthreads]
          simp
        obtain ⟨hfree, htaken'⟩ := taken_of_claimSwap hmem hanswer hswap
        -- An earlier winner would have taken the submission already.
        have hnone : claimSwaps submissionRef ((concurrent policy).run moves).state.log = 0 :=
          Nat.eq_zero_of_not_pos fun hpos => hfree (htaken hpos)
        rw [hnone, if_pos hswap]
        exact ⟨Nat.le_refl 1, fun _ => htaken'⟩
      · rw [if_neg hswap]
        exact ⟨hle, hlater⟩

/-- What a claim can count on while its submission is taken. -/
def late (submissionRef : String) : Code interface where
  faithful x := ∀ found, x = lookedUp submissionRef (.ok found) →
    ∃ p, found = some p ∧ p.status ≠ .pending
  allows _ _ := True

/-- A claim that is refused for what its look-up says, or for its error. -/
def TurnedAway (submissionRef : String) (past : List (Exchange interface)) (o : Outcome Payout) :
    Prop :=
  (∃ p, past = [lookedUp submissionRef (.ok (some p))] ∧ p.status ≠ .pending ∧
    o = taken p.id p.status) ∨
  ∃ e, past = [lookedUp submissionRef (.error e)] ∧ o = .error (.error e)

theorem isClaimable_eq_false (h : p.status ≠ .pending) : p.isClaimable = false := by
  simp [Payout.isClaimable, h]

theorem heeds_late_claim : (late submissionRef).Heeds (claimPayout submissionRef recipient)
    (fun o past => TurnedAway submissionRef past o) [] := by
  unfold claimPayout
  refine ⟨trivial, fun found hfaithful => ?_⟩
  change Except Error (Option Payout) at found
  cases found with
  | error e => exact .inr ⟨e, rfl, rfl⟩
  | ok found =>
      obtain ⟨p, rfl, hstatus⟩ := hfaithful found rfl
      show (late submissionRef).Heeds _ _ [lookedUp submissionRef (.ok (some p))]
      dsimp only [Outcome.ofExcept]
      rw [if_pos (by simp [isClaimable_eq_false hstatus])]
      exact Or.inl ⟨p, rfl, hstatus, rfl⟩

theorem faithful_late {b : Behaviour} {r : Request} {a : interface.Answer r}
    {s s' : MemoryStore} (hdistinct : SubmissionsDistinct s) (htaken : Taken s submissionRef)
    (hanswer : b.answer r s = some (a, s')) : (late submissionRef).faithful ⟨r, a⟩ := by
  rintro found hx
  cases hx
  obtain ⟨-, ha | ⟨e, he⟩⟩ := Behaviour.answer_lookup rfl rfl hanswer
  · obtain rfl : found = s.findSubmission? submissionRef := Except.ok.inj ha
    obtain ⟨row, hrow, hsubmission, hstatus⟩ := htaken
    cases hfind : s.findSubmission? submissionRef with
    | none => exact absurd hsubmission (findSubmission?_eq_none hfind row hrow)
    | some p =>
        have hp : p.submissionRef = some submissionRef := by
          simpa using List.find?_some hfind
        obtain rfl := hdistinct p (MemoryStore.mem_of_findSubmission? hfind) row hrow _ hp
          hsubmission
        exact ⟨p, rfl, hstatus⟩
  · cases he

/-- A claim that is started when its submission is taken is turned away. -/
theorem turnedAway_of_late {first more : List (concurrent policy).Move} {n : Nat}
    {past : List (Exchange interface)} {o : Outcome Payout}
    (htaken : Taken ((concurrent policy).run first).state.store submissionRef)
    (hn : ((concurrent policy).run first).threads.length ≤ n)
    (ht : ((concurrent policy).run (first ++ more)).threads[n]? =
      some ⟨.claim submissionRef recipient, past, .done o⟩) : TurnedAway submissionRef past o := by
  let P : (concurrent policy).Thread → Prop
    | ⟨.claim ref _, past, rest⟩ => ref = submissionRef →
      (late submissionRef).Obeys rest (fun o past => TurnedAway submissionRef past o) past
    | _ => True
  have hP : P ⟨.claim submissionRef recipient, past, .done o⟩ := by
    refine forall_later_threads_run (M := concurrent policy) (P := P)
      (S := fun s => SubmissionsDistinct s.store ∧ Taken s.store submissionRef)
      (fun more => ⟨submissionsDistinct_run _, htaken.later more⟩) ?_ ?_ more n _ hn ht
    · intro op
      cases op with
      | claim ref recipient =>
          rintro rfl
          exact heeds_late_claim
      | create _ | retry _ | sweep _ | execute _ | dispatch _ | recover _ | recordFailure _ _ =>
          trivial
    · intro op past r next b a s s' h hs hanswer
      cases op with
      | claim ref recipient =>
          intro href
          exact (h href).2 a (faithful_late hs.1 hs.2 (Shared.answer_eq_some hanswer).1)
      | create _ | retry _ | sweep _ | execute _ | dispatch _ | recover _ | recordFailure _ _ =>
          trivial
  exact hP rfl

theorem answer_of_mem_log {e : Entry} {c : StoreCall} {a : c.Answer}
    (he : e ∈ ((concurrent policy).run moves).state.log) (hread : c.isRead = true)
    (hbatch : c.isBatch = false) (hx : e.exchange = ⟨.store c, a⟩) :
    a = (e.store.answer c).1 ∨ ∃ error, a = .error error := by
  refine run_induction (M := concurrent policy)
    (P := fun config => ∀ e ∈ config.state.log, ∀ (a : c.Answer), e.exchange = ⟨.store c, a⟩ →
      a = (e.store.answer c).1 ∨ ∃ error, a = .error error)
    (K := fun _ => True) (fun _ h => nomatch h) (fun _ _ _ ih => ih) ?_ (fun _ _ => trivial)
    e he a hx
  intro moves position b before op past r next after a s _ hthreads hanswer _ ih e he a' hx
  obtain ⟨hbehaviour, -, hlog, -⟩ := Shared.answer_eq_some hanswer
  rw [hlog, List.mem_append, List.mem_singleton] at he
  rcases he with he | rfl
  · exact ih e he a' hx
  · cases hx
    obtain ⟨hsame, ha⟩ := Behaviour.answer_lookup hread hbatch hbehaviour
    rw [hsame]
    exact ha

theorem submissionRef_of_lookedUp {t : (concurrent policy).Thread}
    (ht : t ∈ ((concurrent policy).run moves).threads)
    (hx : lookedUp submissionRef (.ok (some p)) ∈ t.past) :
    p.submissionRef = some submissionRef := by
  obtain ⟨e, he, hexchange⟩ := exists_mem_log ht hx
  rcases answer_of_mem_log he rfl rfl hexchange with ha | ⟨error, herror⟩
  · have hfind : e.store.findSubmission? submissionRef = some p := (Except.ok.inj ha).symm
    simpa using List.find?_some hfind
  · cases herror

/-- A claim of a submission that has ended with a record. -/
def isGranted (submissionRef : String) (t : (concurrent policy).Thread) : Bool :=
  match t with
  | ⟨.claim ref _, _, .done (.ok _)⟩ => ref = submissionRef
  | _ => false

theorem countP_le_flatMap {α β : Type} {f : α → List β} {p : β → Bool} {q : α → Bool} {l : List α}
    (h : ∀ a ∈ l, q a = true → 0 < (f a).countP p) : l.countP q ≤ (l.flatMap f).countP p := by
  induction l with
  | nil => simp
  | cons a l ih =>
      have ih := ih fun b hb => h b (List.mem_cons_of_mem a hb)
      have ha := h a List.mem_cons_self
      rw [List.flatMap_cons, List.countP_append, List.countP_cons]
      split
      · rename_i hq
        have := ha hq
        omega
      · omega

theorem countP_isGranted_le (submissionRef : String) (moves : List (concurrent policy).Move) :
    ((concurrent policy).run moves).threads.countP (isGranted submissionRef) ≤ 1 := by
  refine Nat.le_trans (countP_le_flatMap (f := Thread.past) (p := isClaimSwap submissionRef) ?_) ?_
  · intro t ht hgranted
    unfold isGranted at hgranted
    split at hgranted
    · rename_i ref recipient past claimed
      obtain rfl := of_decide_eq_true hgranted
      cases ends_of_claim ht with
      | granted p _ now hclaim =>
          have hsubmission : p.submissionRef = some ref := submissionRef_of_lookedUp ht (by simp)
          refine List.countP_pos_iff.mpr ⟨wonSwap claimed .pending, by simp, ?_⟩
          refine isClaimSwap_iff.mpr ⟨claimed, rfl, ?_⟩
          rw [(Payout.markClaimed_eq_ok hclaim).2]
          exact hsubmission
    · cases hgranted
  · rw [← exchanges_perm.countP_eq]
    exact (claimSwaps_run submissionRef moves).1

/-- Every store call is answered by the store. -/
def isFaultless : (concurrent policy).Move → Bool
  | .resume _ (.fail _) => false
  | .resume _ (.failAfter _) => false
  | _ => true

/-- A store call of a claim reported an error. -/
def Reports (submissionRef : String) (past : List (Exchange interface)) (e : Error) : Prop :=
  lookedUp submissionRef (.error e) ∈ past ∨ ∃ p, claimSwap p (.error e) ∈ past

theorem saveIf_ok {s : MemoryStore} {row : Payout} {expected : Status}
    (hrow : s.find? p.id = some row) : ∃ won, (s.saveIf p expected).1 = .ok won := by
  unfold MemoryStore.saveIf
  rw [hrow]
  dsimp only
  split <;> exact ⟨_, rfl⟩

theorem not_reports_of_isFaultless (submissionRef : String)
    (hmoves : ∀ move ∈ moves, isFaultless move = true) :
    ∀ entry ∈ ((concurrent policy).run moves).state.log, ∀ e,
      entry.exchange ≠ lookedUp submissionRef (.error e) ∧
        ∀ p, entry.exchange ≠ claimSwap p (.error e) := by
  refine run_induction (M := concurrent policy)
    (P := fun c => ∀ entry ∈ c.state.log, ∀ e,
      entry.exchange ≠ lookedUp submissionRef (.error e) ∧
        ∀ p, entry.exchange ≠ claimSwap p (.error e))
    (K := fun move => isFaultless move = true) (fun _ h => nomatch h) (fun _ _ _ ih => ih) ?_ hmoves
  intro moves position b before op past r next after a s hfaultless hthreads hanswer _ ih entry
    hentry e
  obtain ⟨hbehaviour, -, hlog, -⟩ := Shared.answer_eq_some hanswer
  have hplain : ∀ c, r = .store c → c.isBatch = false → b = .plain := by
    rintro c rfl hbatch
    cases b with
    | plain => rfl
    | fail _ | failAfter _ => cases hfaultless
    | shuffled rows =>
        rw [(Behaviour.answer_shuffled hbehaviour).2.1] at hbatch
        cases hbatch
    | submitted _ | confirmed _ | found _ | clock _ | draw _ => cases hbehaviour
  rw [hlog, List.mem_append, List.mem_singleton] at hentry
  rcases hentry with hentry | rfl
  · exact ih entry hentry e
  refine ⟨fun hx => ?_, fun p hx => ?_⟩
  · cases hx
    obtain rfl := hplain _ rfl rfl
    cases hbehaviour
  · cases hx
    obtain rfl := hplain _ rfl rfl
    have hmem : ⟨op, past, .ask (.store (.saveIf p .pending)) next⟩ ∈
        ((concurrent policy).run moves).threads := by
      rw [hthreads]
      simp
    have hpermits : Advances _ s ∧ ∀ q expected, Request.store (.saveIf p .pending) =
        .store (.saveIf q expected) → Swaps ((concurrent policy).run moves).state past q expected :=
      (copies.adequate policy).permits_of_mem .plain hmem hanswer
    obtain ⟨T, copy, -, ⟨-, row, hrow, -⟩, -, -, happly⟩ := hpermits.2 _ _ rfl
    rw [← (Transition.sameOrigin_apply happly).id] at hrow
    obtain ⟨won, hwon⟩ : ∃ won, (((concurrent policy).run moves).state.store.saveIf p .pending).1 =
        .ok won := saveIf_ok hrow
    cases hwon.symm.trans (congrArg Prod.fst (Option.some.inj hbehaviour))

theorem taken_of_wonSwap {t : (concurrent policy).Thread}
    (ht : t ∈ ((concurrent policy).run moves).threads) (hswap : wonSwap p .pending ∈ t.past)
    (hsubmission : p.submissionRef = some submissionRef) :
    Taken ((concurrent policy).run moves).state.store submissionRef := by
  obtain ⟨e, he, hexchange⟩ := exists_mem_log ht hswap
  refine (claimSwaps_run submissionRef moves).2 (List.countP_pos_iff.mpr ?_)
  exact ⟨e.exchange, List.mem_map_of_mem he, isClaimSwap_iff.mpr ⟨p, hexchange, hsubmission⟩⟩

variable {past : List (Exchange interface)}

theorem claimedAt_of_granted
    (ht : ⟨.claim submissionRef recipient, past, .done (.ok p)⟩ ∈
      ((concurrent policy).run moves).threads) :
    ∃ read now row,
      past = [lookedUp submissionRef (.ok (some read)), ⟨.now, now⟩, wonSwap p .pending,
        ⟨.dispatch p.id, ()⟩] ∧
      ((concurrent policy).run moves).state.store.find? p.id = some row ∧
      row.submissionRef = some submissionRef ∧ row.claimedAt = some now := by
  cases ends_of_claim ht with
  | granted read _ now h =>
      obtain ⟨-, hp⟩ := Payout.markClaimed_eq_ok h
      have hread : read.submissionRef = some submissionRef :=
        submissionRef_of_lookedUp ht (by simp)
      obtain ⟨row, hrow, hlead⟩ := leadsTo_of_mem_past (p := p) ht (.inr ⟨.pending, by simp⟩)
      have hid : read.id = p.id := by rw [hp]
      refine ⟨read, now, row, by rw [hid], hrow, ?_, ?_⟩
      · rw [hlead.origin.submissionRef, hp]
        exact hread
      · rw [hlead.claimedAt (by rw [hp]; rfl), hp]

theorem taken_of_lost {o : Outcome Payout}
    (ht : ⟨.claim submissionRef recipient, past, .done o⟩ ∈
      ((concurrent policy).run moves).threads)
    (hlost : claimSwap p (.ok false) ∈ past) : o = taken p.id .processing := by
  cases ends_of_claim ht with
  | unread _ | missing | settled _ _ | mismatched _ _ _ | untimed _ _ _ _ | unwritten _ _ _ _ _
  | granted _ _ _ _ =>
      simp [lookedUp, claimSwap, wonSwap] at hlost
  | lost read claimed now h =>
      obtain rfl : p = claimed := by
        simpa [lookedUp, claimSwap] using hlost
      rw [(Payout.markClaimed_eq_ok h).2]

theorem addresses_of_mismatch {expected supplied : String}
    (ht : ⟨.claim submissionRef recipient, past,
        .done (.error (.error (.mismatch expected supplied)))⟩ ∈
      ((concurrent policy).run moves).threads) :
    (∃ p, past = [lookedUp submissionRef (.ok (some p))] ∧ p.status = .pending ∧
      p.claimedAt = none ∧ expected = p.recipient ∧ supplied = Text.trim recipient ∧
      supplied ≠ p.recipient) ∨ Reports submissionRef past (.mismatch expected supplied) := by
  cases ends_of_claim ht with
  | unread _ =>
      right
      exact .inl (List.mem_singleton_self _)
  | mismatched p h hne =>
      simp only [Payout.isClaimable, Bool.and_eq_true, decide_eq_true_eq,
        Option.isNone_iff_eq_none] at h
      left
      exact ⟨p, rfl, h.1, h.2, rfl, rfl, hne⟩
  | unwritten _ claimed _ _ _ =>
      right
      exact .inr ⟨claimed, by simp⟩

theorem no_rows_of_notFound {subject : String}
    (ht : ⟨.claim submissionRef recipient, past, .done (.error (.error (.notFound subject)))⟩ ∈
      ((concurrent policy).run moves).threads) :
    (past = [lookedUp submissionRef (.ok none)] ∧
      ∀ entry ∈ ((concurrent policy).run moves).state.log,
        entry.exchange = lookedUp submissionRef (.ok none) →
        ∀ row ∈ entry.store.rows, row.submissionRef ≠ some submissionRef) ∨
      Reports submissionRef past (.notFound subject) := by
  cases ends_of_claim ht with
  | unread _ =>
      right
      exact .inl (List.mem_singleton_self _)
  | missing =>
      left
      refine ⟨rfl, fun entry hentry hexchange => ?_⟩
      rcases answer_of_mem_log hentry rfl rfl hexchange with ha | ⟨error, herror⟩
      · exact findSubmission?_eq_none (Except.ok.inj ha).symm
      · cases herror
  | unwritten _ claimed _ _ _ =>
      right
      exact .inr ⟨claimed, by simp⟩

theorem not_reports_of_mem_threads {rest : Program interface (Outcome Payout)} {e : Error}
    (hmoves : ∀ move ∈ moves, isFaultless move = true)
    (ht : ⟨.claim submissionRef recipient, past, rest⟩ ∈
      ((concurrent policy).run moves).threads) :
    ¬ Reports submissionRef past e := by
  have hnone {x : Exchange interface} (hx : x ∈ past) :
      x ≠ lookedUp submissionRef (.error e) ∧ ∀ q, x ≠ claimSwap q (.error e) := by
    obtain ⟨entry, hentry, rfl⟩ := exists_mem_log ht hx
    exact not_reports_of_isFaultless submissionRef hmoves entry hentry e
  rintro (hx | ⟨q, hx⟩)
  · exact (hnone hx).1 rfl
  · exact (hnone hx).2 q rfl

/-- What can be said of all claims of a submission in a run. -/
structure ClaimedOnce (policy : RetryPolicy) (submissionRef : String)
    (moves : List (concurrent policy).Move) : Prop where
  unique : ((concurrent policy).run moves).threads.countP (isGranted submissionRef) ≤ 1
  /-- A claim that is granted starts one execution, and its time stays on the record. -/
  granted : ∀ recipient past p,
    ⟨.claim submissionRef recipient, past, .done (.ok p)⟩ ∈
      ((concurrent policy).run moves).threads →
    ∃ read now row,
      past = [lookedUp submissionRef (.ok (some read)), ⟨.now, now⟩, wonSwap p .pending,
        ⟨.dispatch p.id, ()⟩] ∧
      ((concurrent policy).run moves).state.store.find? p.id = some row ∧
      row.submissionRef = some submissionRef ∧ row.claimedAt = some now
  /-- A claim that begins behind a won swap is turned away, whatever it supplies and whatever has
  become of the record. -/
  late : ∀ first more, moves = first ++ more →
    (∃ t ∈ ((concurrent policy).run first).threads, ∃ p,
      wonSwap p .pending ∈ t.past ∧ p.submissionRef = some submissionRef) →
    ∀ n recipient past o, ((concurrent policy).run first).threads.length ≤ n →
      ((concurrent policy).run moves).threads[n]? =
        some ⟨.claim submissionRef recipient, past, .done o⟩ →
      TurnedAway submissionRef past o
  lost : ∀ recipient past o p,
    ⟨.claim submissionRef recipient, past, .done o⟩ ∈ ((concurrent policy).run moves).threads →
    claimSwap p (.ok false) ∈ past → o = taken p.id .processing
  mismatch : ∀ recipient past expected supplied,
    ⟨.claim submissionRef recipient, past, .done (.error (.error (.mismatch expected supplied)))⟩ ∈
      ((concurrent policy).run moves).threads →
    (∃ p, past = [lookedUp submissionRef (.ok (some p))] ∧ p.status = .pending ∧
      p.claimedAt = none ∧ expected = p.recipient ∧ supplied = Text.trim recipient ∧
      supplied ≠ p.recipient) ∨ Reports submissionRef past (.mismatch expected supplied)
  notFound : ∀ recipient past subject,
    ⟨.claim submissionRef recipient, past, .done (.error (.error (.notFound subject)))⟩ ∈
      ((concurrent policy).run moves).threads →
    (past = [lookedUp submissionRef (.ok none)] ∧
      ∀ entry ∈ ((concurrent policy).run moves).state.log,
        entry.exchange = lookedUp submissionRef (.ok none) →
        ∀ row ∈ entry.store.rows, row.submissionRef ≠ some submissionRef) ∨
      Reports submissionRef past (.notFound subject)
  /-- Claims report errors of the store only if the store makes errors. -/
  faultless : (∀ move ∈ moves, isFaultless move = true) → ∀ recipient past rest e,
    ⟨.claim submissionRef recipient, past, rest⟩ ∈ ((concurrent policy).run moves).threads →
    ¬ Reports submissionRef past e

theorem claimed_once (policy : RetryPolicy) (submissionRef : String)
    (moves : List (concurrent policy).Move) : ClaimedOnce policy submissionRef moves where
  unique := countP_isGranted_le submissionRef moves
  granted _ _ _ ht := claimedAt_of_granted ht
  late := by
    rintro first more rfl ⟨t, ht, p, hswap, hsubmission⟩ n recipient past o hn hthread
    have htaken := taken_of_wonSwap ht hswap hsubmission
    exact turnedAway_of_late htaken hn hthread
  lost _ _ _ _ ht hlost := taken_of_lost ht hlost
  mismatch _ _ _ _ ht := addresses_of_mismatch ht
  notFound _ _ _ ht := no_rows_of_notFound ht
  faultless hmoves _ _ _ _ ht := not_reports_of_mem_threads hmoves ht

/-- Two claims read one payout as pending before either of them swaps. -/
def sampleRace : List (concurrent samplePolicy).Move :=
  [.start (.create (samplePayout none)),
    .resume 0 (.draw sampleId), .resume 0 (.clock .epoch), .resume 0 .plain,
    .start (.claim "sub-1" "GDEST"), .start (.claim "sub-1" " GDEST "),
    .resume 1 .plain, .resume 2 .plain, .resume 1 (.clock .epoch), .resume 2 (.clock .epoch),
    .resume 1 .plain, .resume 2 .plain, .resume 1 .plain]

/-- A claim for someone else that begins behind the race; thread 3 is the execution. -/
def sampleLate : List (concurrent samplePolicy).Move :=
  [.start (.claim "sub-1" "GOTHER"), .resume 4 .plain]

theorem claimed_once_sampleRace :
    (∃ past now row,
      ⟨.claim "sub-1" "GDEST", past, .done (.ok (sampleClaimed none))⟩ ∈
        ((concurrent samplePolicy).run (sampleRace ++ sampleLate)).threads ∧
      ⟨.now, now⟩ ∈ past ∧
      ((concurrent samplePolicy).run (sampleRace ++ sampleLate)).state.store.find? sampleId =
        some row ∧ row.claimedAt = some now) ∧
    (∃ past o,
      ⟨.claim "sub-1" " GDEST ", past, .done o⟩ ∈
        ((concurrent samplePolicy).run (sampleRace ++ sampleLate)).threads ∧
      claimSwap (sampleClaimed none) (.ok false) ∈ past ∧ o = taken sampleId .processing) ∧
    ∃ past o,
      ⟨.claim "sub-1" "GOTHER", past, .done o⟩ ∈
        ((concurrent samplePolicy).run (sampleRace ++ sampleLate)).threads ∧
      TurnedAway "sub-1" past o := by
  have h := claimed_once samplePolicy "sub-1" (sampleRace ++ sampleLate)
  refine ⟨?_, ?_, ?_⟩
  · obtain ⟨past, ht⟩ : ∃ past,
        ((concurrent samplePolicy).run (sampleRace ++ sampleLate)).threads[1]? =
          some ⟨.claim "sub-1" "GDEST", past, .done (.ok (sampleClaimed none))⟩ := ⟨_, rfl⟩
    have hgranted := List.mem_of_getElem? ht
    obtain ⟨read, now, row, hpast, hrow, -, hclaimedAt⟩ := h.granted _ _ _ hgranted
    exact ⟨past, now, row, hgranted, by rw [hpast]; simp, hrow, hclaimedAt⟩
  · obtain ⟨read, clock, o, ht⟩ : ∃ read clock o,
        ((concurrent samplePolicy).run (sampleRace ++ sampleLate)).threads[2]? =
          some ⟨.claim "sub-1" " GDEST ",
            [read, clock, claimSwap (sampleClaimed none) (.ok false)], .done o⟩ := ⟨_, _, _, rfl⟩
    have hlost := List.mem_of_getElem? ht
    have hrefused := h.lost _ _ _ (sampleClaimed none) hlost (by simp)
    exact ⟨_, _, hlost, by simp, hrefused⟩
  · obtain ⟨read, clock, after, rest, hwon⟩ : ∃ read clock after rest,
        ((concurrent samplePolicy).run sampleRace).threads[1]? =
          some ⟨.claim "sub-1" "GDEST",
            [read, clock, wonSwap (sampleClaimed none) .pending, after], rest⟩ :=
      ⟨_, _, _, _, rfl⟩
    obtain ⟨past, o, ht⟩ : ∃ past o,
        ((concurrent samplePolicy).run (sampleRace ++ sampleLate)).threads[4]? =
          some ⟨.claim "sub-1" "GOTHER", past, .done o⟩ := ⟨_, _, rfl⟩
    have hlen : ((concurrent samplePolicy).run sampleRace).threads.length ≤ 4 := by
      decide +kernel
    have hbehind : ∃ t ∈ ((concurrent samplePolicy).run sampleRace).threads, ∃ p,
        wonSwap p .pending ∈ t.past ∧ p.submissionRef = some "sub-1" :=
      ⟨_, List.mem_of_getElem? hwon, sampleClaimed none, by simp, rfl⟩
    have haway := h.late sampleRace sampleLate rfl hbehind 4 _ _ _ hlen ht
    exact ⟨past, o, List.mem_of_getElem? ht, haway⟩

/-- How a claim of a submission has ended. -/
def claimOutcome? (submissionRef : String) (t : (concurrent policy).Thread) :
    Option (Outcome Payout) :=
  match t with
  | ⟨.claim ref _, _, .done o⟩ => if ref = submissionRef then some o else none
  | _ => none

theorem claimOutcome?_eq_some {t : (concurrent policy).Thread} {o : Outcome Payout}
    (h : claimOutcome? submissionRef t = some o) :
    ∃ recipient past, t = ⟨.claim submissionRef recipient, past, .done o⟩ := by
  unfold claimOutcome? at h
  split at h
  · split at h
    · rename_i ref recipient past o' href
      subst href
      obtain rfl := Option.some.inj h
      exact ⟨recipient, past, rfl⟩
    · cases h
  · cases h

/-- A later claim, started as thread 3, whose look-up fails. -/
def sampleUnread : List (concurrent samplePolicy).Move :=
  [.start (.claim "sub-1" "GDEST"), .resume 3 (.fail (.config "down"))]

/-- A claim that begins behind a won swap is not told so if its look-up fails. -/
theorem late_claim_told_otherwise :
    ¬ ∀ (policy : RetryPolicy) (submissionRef : String)
        (first more : List (concurrent policy).Move),
      0 < claimSwaps submissionRef ((concurrent policy).run first).state.log →
      ∀ n recipient past o, ((concurrent policy).run first).threads.length ≤ n →
        ((concurrent policy).run (first ++ more)).threads[n]? =
          some ⟨.claim submissionRef recipient, past, .done o⟩ →
        ∃ id status reason, o = .error (.error (.invalidState id status reason)) := by
  intro h
  have hwon : 0 < claimSwaps "sub-1"
      ((concurrent samplePolicy).run (sampleClaim none)).state.log := by
    decide +kernel
  have hlen : ((concurrent samplePolicy).run (sampleClaim none)).threads.length ≤ 3 := by
    decide +kernel
  have houtcome : (((concurrent samplePolicy).run
      (sampleClaim none ++ sampleUnread)).threads[3]?).bind (claimOutcome? "sub-1") =
        some (.error (.error (.config "down"))) := by
    decide +kernel
  obtain ⟨t, ht, ho⟩ := Option.bind_eq_some_iff.mp houtcome
  obtain ⟨recipient, past, rfl⟩ := claimOutcome?_eq_some ho
  obtain ⟨id, status, reason, heq⟩ := h _ _ _ _ hwon 3 recipient past _ hlen ht
  cases heq

end Disburse.Engine
