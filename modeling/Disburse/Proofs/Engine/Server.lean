import Disburse.Api.Server
import Disburse.Proofs.Engine.Demands
import Disburse.Proofs.Engine.Wiring
import Disburse.Proofs.Payout.Id
import Disburse.Proofs.Text.Percent
import Mathlib.Data.List.TakeWhile

/-!
The engine behind its web interface. Web requests are further threads, beside the operations that
are called directly; every run of it is followed by a run of the engine, in which a web request is
the operation that it asks for.
-/

namespace Disburse

open Disburse.Engine

namespace Api

/-- What a service asks of the engine, if the request can be read and may write. -/
def Service.demand? (r : Request) : Service → Option Demand
  | .health => none
  | .list => none
  | .get _ => none
  | .create => do
    let new ← (readNewPayout (← r.jsonBody?)).toOption
    return .create new
  | .claim => do
    let claim ← (readClaim (← r.jsonBody?)).toOption
    return .claim claim.submissionRef claim.recipient
  | .retry id => do
    let id ← (PayoutId.parse (← Text.Percent.decode? id)).toOption
    return .retry id

/-- The service that a request asks for, if it answers with a record. -/
def Request.demand? (r : Request) : Option Demand :=
  r.service.toOption.bind (Service.demand? r)

end Api

namespace Engine.Demand

/-- The status of a response when a request is granted. -/
def status : Demand → Nat
  | create _ => 201
  | claim .. => 202
  | retry _ => 202

/-- The response to what came of a request. -/
def answered (d : Demand) : Outcome Payout → Outcome Api.Response
  | .ok p => .ok (Api.payoutResponse d.status p)
  | .error (.error e) => .ok (Api.ofError e)
  | .error .crash => .error .crash

end Engine.Demand

namespace Api

variable {policy : RetryPolicy} {r : Request} {d : Demand} {service : Service} {id : PayoutId}

theorem perform_of_demand (h : service.demand? r = some d) :
    perform policy r service = (do return payoutResponse d.status (← d.work policy)) := by
  cases service with
  | health | list | get _ => cases h
  | create =>
      obtain ⟨text, hbody, h⟩ := Option.bind_eq_some_iff.mp h
      obtain ⟨new, hnew, h⟩ := Option.bind_eq_some_iff.mp h
      obtain rfl := Option.some.inj h
      simp only [perform, withBody, hbody, Transition.eq_ok_of_toOption hnew]
      rfl
  | claim =>
      obtain ⟨text, hbody, h⟩ := Option.bind_eq_some_iff.mp h
      obtain ⟨claim, hclaim, h⟩ := Option.bind_eq_some_iff.mp h
      obtain rfl := Option.some.inj h
      simp only [perform, withBody, hbody, Transition.eq_ok_of_toOption hclaim]
      rfl
  | retry id =>
      obtain ⟨text, htext, h⟩ := Option.bind_eq_some_iff.mp h
      obtain ⟨id, hid, h⟩ := Option.bind_eq_some_iff.mp h
      obtain rfl := Option.some.inj h
      simp only [perform, withId, htext, Transition.eq_ok_of_toOption hid]
      rfl

theorem demand?_of_get {services : List (String × Service)} (hservices : r.services = some services)
    (hget : services.lookup "GET" = some service) : service.demand? r = none := by
  unfold Request.services at hservices
  split at hservices
  · cases hservices
    obtain rfl : Service.health = service := by simpa using hget
    rfl
  · cases hservices
    obtain rfl : Service.list = service := by simpa using hget
    rfl
  · cases hservices
    simp [List.lookup_cons] at hget
  · rename_i id _ _
    split at hservices
    · cases hservices
    cases hservices
    obtain rfl : Service.get id = service := by simpa using hget
    rfl
  · cases hservices
    simp [List.lookup_cons] at hget
  · cases hservices

theorem isHead_of_demand (hservice : r.service = .ok service) (h : service.demand? r = some d) :
    r.isHead = false := by
  by_contra hhead
  rw [Bool.not_eq_false] at hhead
  unfold Request.service at hservice
  rw [hhead, if_pos rfl] at hservice
  split at hservice
  · cases hservice
  rename_i services hservices
  split at hservice
  · rename_i service' hget
    obtain rfl := Except.ok.inj hservice
    rw [demand?_of_get hservices hget] at h
    cases h
  · cases hservice

/-- The response to a request that asks something of the engine is made from what comes of it. -/
theorem respond_of_demand (h : r.demand? = some d) :
    (respond policy r).outcome =
      (d.work policy).outcome.bind fun o => .done (d.answered o) := by
  obtain ⟨service, hservice, hdemand⟩ := Option.bind_eq_some_iff.mp h
  have hservice := Transition.eq_ok_of_toOption hservice
  unfold respond
  rw [hservice]
  dsimp only
  rw [perform_of_demand hdemand, isHead_of_demand hservice hdemand]
  generalize d.work policy = t
  induction t using Program.rec with
  | done o => rcases o with (e | _) | p <;> rfl
  | ask r next ih => exact congrArg (Program.ask r) (funext ih)

theorem plain_of_mem_retry {c : Char}
    (h : c ∈ "/payouts/".toList ++ id.chars ++ "/retry".toList) : c ≠ '?' ∧ c ≠ '#' := by
  have hfirst : "/payouts/".toList.all (fun c => c ≠ '?' ∧ c ≠ '#') = true := by decide
  have hlast : "/retry".toList.all (fun c => c ≠ '?' ∧ c ≠ '#') = true := by decide
  rw [List.mem_append, List.mem_append] at h
  rcases h with (h | h) | h
  · exact of_decide_eq_true (List.all_eq_true.mp hfirst c h)
  · exact ⟨(PayoutId.plain_of_mem_chars h).2.1, (PayoutId.plain_of_mem_chars h).2.2.1⟩
  · exact of_decide_eq_true (List.all_eq_true.mp hlast c h)

theorem parts_of_retry (htarget : r.target = s!"/payouts/{id.toText}/retry") :
    r.parts = ["payouts", id.toText, "retry"] := by
  have hchars : r.target.toList = "/payouts/".toList ++ id.chars ++ "/retry".toList := by
    rw [htarget]
    simp [PayoutId.toText, toString]
  have hlocated : r.located = r.target.toList := by
    refine List.takeWhile_eq_self_iff.mpr fun c hc => ?_
    simpa using (plain_of_mem_retry (hchars ▸ hc)).2
  have hpath : r.path = r.target.toList := by
    rw [Request.path, hlocated]
    refine List.takeWhile_eq_self_iff.mpr fun c hc => ?_
    simpa using (plain_of_mem_retry (hchars ▸ hc)).1
  have hsplit : (['/'].intercalate ["payouts".toList, id.chars, "retry".toList]).splitOn '/' =
      ["payouts".toList, id.chars, "retry".toList] := by
    refine List.splitOn_intercalate '/' ?_ (by simp)
    simp only [List.forall_mem_cons]
    exact ⟨by decide, fun h => (PayoutId.plain_of_mem_chars h).1 rfl, by decide, by simp⟩
  have hrest : r.path =
      '/' :: ['/'].intercalate ["payouts".toList, id.chars, "retry".toList] := by
    rw [hpath, hchars]
    simp [List.intercalate]
  rw [Request.parts, hrest]
  show ((['/'].intercalate _).splitOn '/').map String.ofList = _
  rw [hsplit]
  simp [PayoutId.toText]

theorem demand?_of_retry (hmethod : r.method = "POST")
    (htarget : r.target = s!"/payouts/{id.toText}/retry") : r.demand? = some (.retry id) := by
  have hhead : r.isHead = false := by
    rw [Request.isHead, hmethod]
    decide
  have hservice : r.service = .ok (.retry id.toText) := by
    simp [Request.service, Request.services, parts_of_retry htarget, hhead, hmethod]
  have htext : Text.Percent.decode? id.toText = some id.toText :=
    Text.Percent.decode?_of_not_mem fun c hc => (PayoutId.plain_of_mem_chars hc).2.2.2
  have hid : PayoutId.parse id.toText = .ok id := by
    rw [PayoutId.parse, PayoutId.read?_toText]
  simp [Request.demand?, hservice, Service.demand?, htext, hid, Except.toOption]

/-- Only reads of the store. -/
def reads : Code interface where
  faithful _ := True
  allows _ r := ∃ c : StoreCall, r = .store c ∧ c.isRead = true

theorem reads_store {c : StoreCall} {past : List (Exchange interface)} (hread : c.isRead = true) :
    reads.Heeds (store c) (fun _ _ => True) past := by
  constructor
  · exact ⟨c, rfl, hread⟩
  · intro _ _
    exact trivial

theorem reads_load {id : PayoutId} {past : List (Exchange interface)} :
    reads.Heeds (load id) (fun _ _ => True) past := by
  refine (reads_store rfl).bind ?_ fun _ _ _ => trivial
  rintro (_ | p) past' -
  all_goals trivial

theorem reads_perform {past : List (Exchange interface)} (h : service.demand? r = none) :
    reads.Heeds (perform policy r service) (fun _ _ => True) past := by
  cases service with
  | health => trivial
  | list =>
      simp only [perform]
      split
      · trivial
      · exact (reads_store rfl).bind (fun _ _ _ => trivial) fun _ _ _ => trivial
  | get id =>
      simp only [perform, withId]
      split
      · trivial
      split
      · exact reads_load.bind (fun _ _ _ => trivial) fun _ _ _ => trivial
      · trivial
  | create =>
      simp only [perform, withBody]
      split
      · trivial
      rename_i text hbody
      split
      · rename_i new hnew
        simp [Service.demand?, hbody, hnew, Except.toOption] at h
      · trivial
  | claim =>
      simp only [perform, withBody]
      split
      · trivial
      rename_i text hbody
      split
      · rename_i claim hclaim
        simp [Service.demand?, hbody, hclaim, Except.toOption] at h
      · trivial
  | retry id =>
      simp only [perform, withId]
      split
      · trivial
      rename_i text htext
      split
      · rename_i id hid
        simp [Service.demand?, htext, hid, Except.toOption] at h
      · trivial

theorem reads_respond {past : List (Exchange interface)} (h : r.demand? = none) :
    reads.Heeds (respond policy r) (fun _ _ => True) past := by
  unfold respond
  cases hservice : r.service with
  | error status => trivial
  | ok service =>
      have hdemand : service.demand? r = none := by
        simpa [Request.demand?, hservice, Except.toOption] using h
      have hattempt : reads.Heeds (Task.attempt (perform policy r service)) (fun _ _ => True)
          past := by
        refine Code.heeds_attempt.mpr ((reads_perform hdemand).imp ?_)
        rintro ((e | _) | response) past' -
        all_goals trivial
      refine hattempt.bind ?_ fun _ _ _ => trivial
      rintro (e | response) past' -
      all_goals trivial

end Api

namespace Engine

open Disburse.Machine

/-- What is started from outside or by the engine: an operation, or the answer to a web request. -/
inductive Served where
  | engine (op : Operation)
  | web (r : Api.Request)

/-- What an operation or a request ends with. -/
abbrev Served.Value : Served → Type
  | engine op => Outcome op.Value
  | web _ => Outcome Api.Response

/-- The engine's operations and web requests side by side. -/
abbrev served (policy : RetryPolicy) : Machine interface where
  State := Shared
  initial := .empty
  Choice := Behaviour
  answer := fun b r s => s.answer true b r
  Op := Served
  Value := Served.Value
  program
    | .engine op => (op.work policy).outcome
    | .web r => (Api.respond policy r).outcome
  spawned
    | .dispatch id => some (.engine (.dispatch id))
    | _ => none
  opens := fun _ _ => true

variable {policy : RetryPolicy} {d : Demand}

/-- The engine's thread of a request. -/
def Demand.thread (d : Demand) (past : List (Exchange interface))
    (p : Program interface (Outcome Payout)) : (concurrent policy).Thread :=
  match d with
  | create new => ⟨.create new, past, p⟩
  | claim submissionRef recipient => ⟨.claim submissionRef recipient, past, p⟩
  | retry id => ⟨.retry id, past, p⟩

/-- A thread of the engine does the work of a thread at the web interface, unless that one only
reads. -/
inductive Behind : (concurrent policy).Thread → (served policy).Thread → Prop where
  | engine (op : Operation) (past : List (Exchange interface))
      (p : Program interface (Outcome op.Value)) : Behind ⟨op, past, p⟩ ⟨.engine op, past, p⟩
  | demand (r : Api.Request) (d : Demand) (past : List (Exchange interface))
      (p : Program interface (Outcome Payout)) (h : r.demand? = some d) :
      Behind (d.thread past p) ⟨.web r, past, p.bind fun o => .done (d.answered o)⟩
  | reading (t : (concurrent policy).Thread) (r : Api.Request) (past : List (Exchange interface))
      (p : Program interface (Outcome Api.Response)) (h : r.demand? = none)
      (hreads : Api.reads.Obeys p (fun _ _ => True) past) : Behind t ⟨.web r, past, p⟩

/-- The engine has got as far as the engine behind the web interface. -/
structure Tracks (c : (concurrent policy).Config) (d : (served policy).Config) : Prop where
  store : c.state.store = d.state.store
  drawn : c.state.drawn = d.state.drawn
  threads : List.Forall₂ Behind c.threads d.threads

theorem Demand.start_operation (d : Demand) :
    (Thread.start d.operation : (concurrent policy).Thread) =
      d.thread [] (d.work policy).outcome := by
  cases d <;> rfl

theorem behind_start (policy : RetryPolicy) (op : Served) :
    ∃ op', Behind (Thread.start op' : (concurrent policy).Thread) (Thread.start op) := by
  cases op with
  | engine op => exact ⟨op, .engine op [] _⟩
  | web r =>
      cases hdemand : r.demand? with
      | none => exact ⟨.dispatch sampleId, .reading _ r [] _ hdemand (Api.reads_respond hdemand)⟩
      | some d =>
          refine ⟨d.operation, ?_⟩
          have hstart : (Thread.start (.web r) : (served policy).Thread) =
              ⟨.web r, [], (d.work policy).outcome.bind fun o => .done (d.answered o)⟩ :=
            congrArg (Thread.mk (M := served policy) (.web r) []) (Api.respond_of_demand hdemand)
          rw [hstart, Demand.start_operation]
          exact .demand r d [] _ hdemand

section Runs

variable {c : (served policy).Config} {before after : List (served policy).Thread}
  {first rest : List (concurrent policy).Thread} {r : Request} {b : Behaviour}
  {a : interface.Answer r} {s : Shared} {u : (served policy).Thread}

theorem Tracks.ask {tracked : List (concurrent policy).Move} {op : Operation}
    {past : List (Exchange interface)}
    {next : interface.Answer r → Program interface (Outcome op.Value)}
    (h : Tracks ((concurrent policy).run tracked) c) (hfirst : List.Forall₂ Behind first before)
    (hrest : List.Forall₂ Behind rest after)
    (hthreads : ((concurrent policy).run tracked).threads =
      first ++ ⟨op, past, .ask r next⟩ :: rest)
    (hanswer : c.state.answer true b r = some (a, s))
    (hu : Behind ⟨op, past ++ [⟨r, a⟩], next a⟩ u) :
    ∃ more, Tracks ((concurrent policy).run (tracked ++ more))
      ⟨s, before ++ u :: after ++ (((served policy).spawned r).map Thread.start).toList⟩ := by
  have hstep := (run_append_singleton tracked _).trans
    (Config.step_resume hthreads (Shared.answer_congr h.store h.drawn hanswer))
  refine ⟨[.resume first.length b], ?_⟩
  rw [hstep]
  refine ⟨rfl, rfl, List.rel_append (List.rel_append hfirst (.cons hu hrest)) ?_⟩
  cases r with
  | dispatch id => exact .cons (.engine (.dispatch id) [] _) .nil
  | transfer _ | store _ | now | freshId | publish _ | pause _ => exact .nil

theorem Tracks.step {tracked : List (concurrent policy).Move}
    (h : Tracks ((concurrent policy).run tracked) c) (move : (served policy).Move) :
    ∃ more, Tracks ((concurrent policy).run (tracked ++ more)) (c.step move) := by
  obtain hstep | ⟨op, -, -, hstep⟩ |
    ⟨-, b, -, before, op, past, r, next, after, a, s, hthreads, hanswer, hstep⟩ :=
    c.step_cases move
  · exact ⟨[], by rwa [hstep, List.append_nil]⟩
  · obtain ⟨op', hbehind⟩ := behind_start policy op
    refine ⟨[.start op'], ?_⟩
    rw [run_append_singleton, hstep]
    exact ⟨h.store, h.drawn, List.rel_append h.threads (.cons hbehind .nil)⟩
  rw [hstep]
  have hmatch := h.threads
  rw [hthreads] at hmatch
  obtain ⟨first, t, rest, hc, hfirst, hbehind, hrest⟩ := exists_append_of_forall₂ hmatch
  generalize hu : (⟨op, past, .ask r next⟩ : (served policy).Thread) = u at hbehind
  cases hbehind with
  | engine op past p =>
      cases hu
      exact h.ask hfirst hrest hc hanswer (.engine op _ _)
  | demand web d past p hdemand =>
      cases p with
      | done o => cases hu
      | ask r more =>
          cases hu
          cases d with
          | create new => exact h.ask hfirst hrest hc hanswer (.demand web _ _ _ hdemand)
          | claim submissionRef recipient =>
              exact h.ask hfirst hrest hc hanswer (.demand web _ _ _ hdemand)
          | retry id => exact h.ask hfirst hrest hc hanswer (.demand web _ _ _ hdemand)
  | reading t web past p hdemand hreads =>
      cases hu
      -- A web request that only reads is no operation of the engine.
      obtain ⟨⟨call, rfl, hread⟩, hnext⟩ := hreads
      obtain ⟨hbehaviour, hdrawn, -, -⟩ := Shared.answer_eq_some hanswer
      refine ⟨[], ?_⟩
      rw [List.append_nil]
      refine ⟨h.store.trans (Behaviour.answer_read hread hbehaviour).1.symm, ?_, ?_⟩
      · rw [h.drawn, hdrawn]
        exact (List.append_nil _).symm
      · rw [hc]
        show List.Forall₂ Behind _ (_ ++ [])
        rw [List.append_nil]
        exact List.rel_append hfirst
          (.cons (.reading t web _ _ hdemand (hnext a trivial)) hrest)

theorem Tracks.run {tracked : List (concurrent policy).Move} {moves : List (served policy).Move}
    (h : Tracks ((concurrent policy).run tracked) ((served policy).run moves))
    (more : List (served policy).Move) :
    ∃ more', Tracks ((concurrent policy).run (tracked ++ more'))
      ((served policy).run (moves ++ more)) := by
  induction more using List.reverseRecOn with
  | nil => exact ⟨[], by rwa [List.append_nil, List.append_nil]⟩
  | append_singleton more move ih =>
      obtain ⟨more₁, h₁⟩ := ih
      obtain ⟨more₂, h₂⟩ := h₁.step move
      rw [← List.append_assoc, run_append_singleton]
      exact ⟨more₁ ++ more₂, by rwa [← List.append_assoc]⟩

/-- Every run behind the web interface is followed by a run of the engine. -/
theorem exists_tracks_run (moves : List (served policy).Move) :
    ∃ tracked, Tracks ((concurrent policy).run tracked) ((served policy).run moves) := by
  have hstart : Tracks ((concurrent policy).run []) ((served policy).run []) := ⟨rfl, rfl, .nil⟩
  exact hstart.run moves

end Runs

end Engine

end Disburse
