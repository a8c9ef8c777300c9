import Disburse.Proofs.Concurrency.Conduct
import Disburse.Proofs.Engine.Interleaving
import Mathlib.Data.List.Forall2

/-!
The engine with its transfers over a ledger. Each call of the executor is a program of its own, so
that the calls of the ledger, too, are made side by side and in any order. Every run of it is
followed by a run of the engine in which a transfer takes one step: a thread inside a transfer
stands where the engine's thread still asks for it.
-/

namespace Disburse.Engine

open Disburse.Machine

/-- What an engine and its executor ask of their surroundings. -/
inductive WiredRequest where
  | engine (r : Request)
  | ledger (r : Ledger.Request)

abbrev wiredInterface : Interface where
  Request := WiredRequest
  Answer
    | .engine r => interface.Answer r
    | .ledger r => Ledger.interface.Answer r

def onLedger {α : Type} (p : Program Ledger.interface α) : Program wiredInterface α :=
  p.supply fun r => .request (I := wiredInterface) (.ledger r)

/-- Transfers are programs over the ledger; everything else is asked as it is. -/
def wire (executor : Executor) : (r : Request) → Program wiredInterface (interface.Answer r)
  | .transfer c => onLedger (executor.answer c).outcome
  | .store c => .request (I := wiredInterface) (.engine (.store c))
  | .now => .request (I := wiredInterface) (.engine .now)
  | .freshId => .request (I := wiredInterface) (.engine .freshId)
  | .publish e => .request (I := wiredInterface) (.engine (.publish e))
  | .dispatch id => .request (I := wiredInterface) (.engine (.dispatch id))
  | .pause n => .request (I := wiredInterface) (.engine (.pause n))

/-- How the surroundings behave at one request: those of the engine, or what the ledger and its
clock answer. -/
inductive WiredChoice where
  | engine (b : Behaviour)
  | ledger (answers : (r : Ledger.Request) → Ledger.interface.Answer r)

/-- What all threads share, and what the ledger was asked. -/
structure WiredState where
  engine : Shared
  /-- What the ledger was asked so far, and what it answered. -/
  calls : List (Exchange Ledger.interface)

/-- The answers of both sides; absent if the choice is for the other one. -/
def WiredChoice.answer : WiredChoice → (r : WiredRequest) → WiredState →
    Option (wiredInterface.Answer r × WiredState)
  | engine b, .engine r, s =>
    (s.engine.answer true b r).map fun (a, shared) => (a, ⟨shared, s.calls⟩)
  | ledger answers, .ledger r, s =>
    some (answers r, ⟨s.engine, s.calls ++ [⟨r, answers r⟩]⟩)
  | _, _, _ => none

/-- The engine's operations side by side, over the ledger. -/
abbrev wired (policy : RetryPolicy) (executor : Executor) : Machine wiredInterface where
  State := WiredState
  initial := ⟨.empty, []⟩
  Choice := WiredChoice
  answer := WiredChoice.answer
  Op := Operation
  Value := fun op => Outcome op.Value
  program := fun op => (op.work policy).outcome.supply (wire executor)
  spawned
    | .engine (.dispatch id) => some (.dispatch id)
    | _ => none
  opens := fun _ _ => true

namespace WiredChoice

variable {choice : WiredChoice} {s s' : WiredState}

theorem answer_engine {r : Request} {a : interface.Answer r}
    (h : choice.answer (.engine r) s = some (a, s')) :
    ∃ b shared, choice = .engine b ∧ s.engine.answer true b r = some (a, shared) ∧
      s' = ⟨shared, s.calls⟩ := by
  cases choice with
  | engine b =>
      obtain ⟨⟨a', shared⟩, hanswer, heq⟩ := Option.map_eq_some_iff.mp h
      cases heq
      exact ⟨b, shared, rfl, hanswer, rfl⟩
  | ledger answers => cases h

theorem answer_ledger {r : Ledger.Request} {a : Ledger.interface.Answer r}
    (h : choice.answer (.ledger r) s = some (a, s')) : s' = ⟨s.engine, s.calls ++ [⟨r, a⟩]⟩ := by
  cases choice with
  | engine b => cases h
  | ledger answers =>
      cases h
      rfl

end WiredChoice

/-- Where a thread over the ledger stands: where the engine's thread does, or inside the transfer
that this one asks for, behind some calls of the ledger. -/
inductive Stage (executor : Executor) (calls : List (Exchange Ledger.interface)) {α : Type} :
    Program interface α → Program wiredInterface α → Prop where
  | level (p : Program interface α) : Stage executor calls p (p.supply (wire executor))
  | inside (c : TransferCall) (next : Outcome c.Value → Program interface α)
      {xs : List (Exchange Ledger.interface)} {q : Program Ledger.interface (Outcome c.Value)}
      (hreaches : (executor.answer c).outcome.Reaches xs q) (hxs : xs ⊆ calls) :
      Stage executor calls (.ask (.transfer c) next)
        ((onLedger q).bind fun a => (next a).supply (wire executor))

/-- The next request of a thread over the ledger, when the engine's thread has come as far as it
can. -/
inductive Ready (executor : Executor) (calls : List (Exchange Ledger.interface)) {α : Type} :
    Program interface α → (r : WiredRequest) →
      (wiredInterface.Answer r → Program wiredInterface α) → Prop where
  | engine (r : Request) (hr : ∀ c, r ≠ .transfer c)
      (next : interface.Answer r → Program interface α) :
      Ready executor calls (.ask r next) (.engine r) fun a => (next a).supply (wire executor)
  | ledger (c : TransferCall) (next : Outcome c.Value → Program interface α)
      {xs : List (Exchange Ledger.interface)} (r : Ledger.Request)
      (more : Ledger.interface.Answer r → Program Ledger.interface (Outcome c.Value))
      (hreaches : (executor.answer c).outcome.Reaches xs (.ask r more)) (hxs : xs ⊆ calls) :
      Ready executor calls (.ask (.transfer c) next) (.ledger r) fun a =>
        (onLedger (more a)).bind fun o => (next o).supply (wire executor)

/-- A transfer was answered as the executor does, from calls of the ledger. -/
def Supplied (executor : Executor) (calls : List (Exchange Ledger.interface)) :
    Exchange interface → Prop
  | ⟨.transfer c, a⟩ => ∃ xs ⊆ calls, (executor.answer c).outcome.Reaches xs (.done a)
  | _ => True

/-- A thread that has come as far as one over the ledger. -/
inductive Mirrors {policy : RetryPolicy} (executor : Executor)
    (calls : List (Exchange Ledger.interface)) :
    (concurrent policy).Thread → (wired policy executor).Thread → Prop where
  | mk (op : Operation) (past : List (Exchange interface)) (past' : List (Exchange wiredInterface))
      {p : Program interface (Outcome op.Value)} {q : Program wiredInterface (Outcome op.Value)}
      (hstage : Stage executor calls p q) : Mirrors executor calls ⟨op, past, p⟩ ⟨op, past', q⟩

/-- The engine is as far as the engine over the ledger, except for transfers under way. -/
structure Follows {policy : RetryPolicy} {executor : Executor} (c : (concurrent policy).Config)
    (d : (wired policy executor).Config) : Prop where
  store : c.state.store = d.state.engine.store
  drawn : c.state.drawn = d.state.engine.drawn
  threads : List.Forall₂ (Mirrors executor d.state.calls) c.threads d.threads
  supplied : ∀ e ∈ c.state.log, Supplied executor d.state.calls e.exchange

variable {policy : RetryPolicy} {executor : Executor}
  {calls calls' : List (Exchange Ledger.interface)} {α : Type}

theorem Stage.mono {p : Program interface α} {q : Program wiredInterface α}
    (h : Stage executor calls p q) (hcalls : calls ⊆ calls') : Stage executor calls' p q := by
  cases h with
  | level p => exact .level p
  | inside c next hreaches hxs => exact .inside c next hreaches fun x hx => hcalls (hxs hx)

theorem Mirrors.mono {t : (concurrent policy).Thread} {u : (wired policy executor).Thread}
    (h : Mirrors executor calls t u) (hcalls : calls ⊆ calls') : Mirrors executor calls' t u := by
  obtain ⟨op, past, past', hstage⟩ := h
  exact .mk op past past' (hstage.mono hcalls)

theorem Supplied.mono {x : Exchange interface} (h : Supplied executor calls x)
    (hcalls : calls ⊆ calls') : Supplied executor calls' x := by
  obtain ⟨r, a⟩ := x
  cases r with
  | transfer c =>
      obtain ⟨xs, hxs, hreaches⟩ := h
      exact ⟨xs, fun x hx => hcalls (hxs hx), hreaches⟩
  | store _ | now | freshId | publish _ | dispatch _ | pause _ => trivial

theorem Supplied.of_engine {r : Request} {a : interface.Answer r} (hr : ∀ c, r ≠ .transfer c) :
    Supplied executor calls ⟨r, a⟩ := by
  cases r with
  | transfer c => exact absurd rfl (hr c)
  | store _ | now | freshId | publish _ | dispatch _ | pause _ => trivial

theorem supply_ask {r : Request} (hr : ∀ c, r ≠ .transfer c)
    (next : interface.Answer r → Program interface α) :
    (Program.ask (I := interface) r next).supply (wire executor) =
      .ask (I := wiredInterface) (.engine r) fun a => (next a).supply (wire executor) := by
  cases r with
  | transfer c => exact absurd rfl (hr c)
  | store _ | now | freshId | publish _ | dispatch _ | pause _ => rfl

theorem exists_answer_transfer (c : TransferCall) (o : Outcome c.Value) (s : Shared) :
    ∃ b, s.answer true b (.transfer c) =
      some (o, ⟨s.store, s.drawn, s.log ++ [⟨⟨.transfer c, o⟩, s.store⟩]⟩) := by
  cases c with
  | submit request =>
      exact ⟨.submitted o, by simp [Shared.answer, Behaviour.answer, Shared.drawnBy]⟩
  | awaitConfirmation hash =>
      exact ⟨.confirmed o, by simp [Shared.answer, Behaviour.answer, Shared.drawnBy]⟩
  | lookup hash => exact ⟨.found o, by simp [Shared.answer, Behaviour.answer, Shared.drawnBy]⟩

theorem Shared.answer_congr {b : Behaviour} {r : Request} {a : interface.Answer r}
    {s s' t : Shared} (hstore : t.store = s.store) (hdrawn : t.drawn = s.drawn)
    (h : s.answer true b r = some (a, s')) :
    t.answer true b r = some (a, ⟨s'.store, s'.drawn, t.log ++ [⟨⟨r, a⟩, s'.store⟩]⟩) := by
  obtain ⟨hbehaviour, hdrawn', -, hfresh⟩ := Shared.answer_eq_some h
  have hfresh' := hfresh rfl
  simp only [Shared.answer, hstore, hdrawn, hbehaviour]
  rw [if_neg (by simpa using hfresh'), hdrawn']

theorem exists_append_of_forall₂ {β γ : Type} {R : β → γ → Prop} {l : List β}
    {before after : List γ} {u : γ} (h : List.Forall₂ R l (before ++ u :: after)) :
    ∃ first t rest, l = first ++ t :: rest ∧ List.Forall₂ R first before ∧ R t u ∧
      List.Forall₂ R rest after := by
  obtain ⟨t, rest, ht, hrest, hdrop⟩ :=
    List.forall₂_cons_right_iff.mp (List.forall₂_drop_append l before (u :: after) h)
  refine ⟨l.take before.length, t, rest, ?_, List.forall₂_take_append l before _ h, ht, hrest⟩
  rw [← hdrop, List.take_append_drop]

/-- A thread over the ledger that asks: the engine's thread is ready for it, or the transfer that
it asks for has ended. -/
theorem Stage.ask_cases {p : Program interface α} {r : WiredRequest}
    {next : wiredInterface.Answer r → Program wiredInterface α}
    (h : Stage executor calls p (.ask r next)) :
    Ready executor calls p r next ∨
      ∃ (c : TransferCall) (more : Outcome c.Value → Program interface α) (o : Outcome c.Value),
        p = .ask (.transfer c) more ∧
        (∃ xs ⊆ calls, (executor.answer c).outcome.Reaches xs (.done o)) ∧
        (more o).supply (wire executor) = .ask r next := by
  -- Inside a transfer the ledger is asked, until the transfer has ended and the engine goes on.
  have hinside : ∀ (c : TransferCall) (more : Outcome c.Value → Program interface α) xs
      (q : Program Ledger.interface (Outcome c.Value)), xs ⊆ calls →
      (executor.answer c).outcome.Reaches xs q →
      (onLedger q).bind (fun o => (more o).supply (wire executor)) = .ask r next →
      Ready executor calls (.ask (.transfer c) more) r next ∨
        ∃ o, (∃ xs ⊆ calls, (executor.answer c).outcome.Reaches xs (.done o)) ∧
          (more o).supply (wire executor) = .ask r next := by
    intro c more xs q hxs hreaches hq
    cases q with
    | done o => exact .inr ⟨o, ⟨xs, hxs, hreaches⟩, hq⟩
    | ask r' next' =>
        cases hq
        exact .inl (.ledger c more r' next' hreaches hxs)
  generalize hq : Program.ask (I := wiredInterface) r next = q at h
  cases h with
  | level p =>
      cases p with
      | done a => cases hq
      | ask r' more =>
          by_cases hr : ∃ c, r' = .transfer c
          · obtain ⟨c, rfl⟩ := hr
            rcases hinside c more [] _ (by simp) (.refl _) hq.symm with hready | ⟨o, ho⟩
            · exact .inl hready
            · exact .inr ⟨c, more, o, rfl, ho.1, ho.2.trans hq⟩
          · have hr' : ∀ c, r' ≠ .transfer c := fun c hc => hr ⟨c, hc⟩
            rw [supply_ask hr'] at hq
            cases hq
            exact .inl (.engine r' hr' more)
  | inside c more hreaches hxs =>
      rcases hinside c more _ _ hxs hreaches hq.symm with hready | ⟨o, ho⟩
      · exact .inl hready
      · exact .inr ⟨c, more, o, rfl, ho.1, ho.2.trans hq⟩

section Runs

variable {d : (wired policy executor).Config} {before after : List (wired policy executor).Thread}
  {first rest : List (concurrent policy).Thread} {op : Operation}
  {past : List (Exchange interface)} {past' : List (Exchange wiredInterface)}

theorem exists_ready {moves : List (concurrent policy).Move}
    {p : Program interface (Outcome op.Value)} {r : WiredRequest}
    {next : wiredInterface.Answer r → Program wiredInterface (Outcome op.Value)}
    (h : Follows ((concurrent policy).run moves) d)
    (hd : d.threads = before ++ ⟨op, past', .ask r next⟩ :: after)
    (hfirst : List.Forall₂ (Mirrors executor d.state.calls) first before)
    (hrest : List.Forall₂ (Mirrors executor d.state.calls) rest after)
    (hc : ((concurrent policy).run moves).threads = first ++ ⟨op, past, p⟩ :: rest)
    (hstage : Stage executor d.state.calls p (.ask r next)) :
    ∃ moves past p, Follows ((concurrent policy).run moves) d ∧
      ((concurrent policy).run moves).threads = first ++ ⟨op, past, p⟩ :: rest ∧
      Ready executor d.state.calls p r next := by
  induction p generalizing moves past with
  | done a =>
      rcases hstage.ask_cases with hready | ⟨_, _, _, hp, -⟩
      · exact ⟨moves, past, _, h, hc, hready⟩
      · cases hp
  | ask r' more' ih =>
      rcases hstage.ask_cases with hready | ⟨c, more, o, hp, hsupplied, hnext⟩
      · exact ⟨moves, past, _, h, hc, hready⟩
      · cases hp
        obtain ⟨b, hanswer⟩ := exists_answer_transfer c o ((concurrent policy).run moves).state
        have hstep := (run_append_singleton moves _).trans (Config.step_resume hc hanswer)
        have hlevel : Stage executor d.state.calls (more o) (.ask r next) := hnext ▸ .level _
        have hthreads : ((concurrent policy).run (moves ++ [.resume first.length b])).threads =
            first ++ ⟨op, past ++ [⟨.transfer c, o⟩], more o⟩ :: rest := by
          rw [hstep]
          exact List.append_nil _
        refine ih o ⟨?_, ?_, ?_, ?_⟩ hthreads hlevel
        · rw [hstep]
          exact h.store
        · rw [hstep]
          exact h.drawn
        · rw [hthreads, hd]
          exact List.rel_append hfirst (.cons (.mk op _ past' hlevel) hrest)
        · rw [hstep]
          exact List.forall_mem_append.mpr ⟨h.supplied, List.forall_mem_singleton.mpr hsupplied⟩

theorem Follows.ask_engine {moves : List (concurrent policy).Move} {r : Request}
    {more : interface.Answer r → Program interface (Outcome op.Value)} {choice : WiredChoice}
    {a : interface.Answer r} {s : WiredState} (h : Follows ((concurrent policy).run moves) d)
    (hfirst : List.Forall₂ (Mirrors executor d.state.calls) first before)
    (hrest : List.Forall₂ (Mirrors executor d.state.calls) rest after)
    (hc : ((concurrent policy).run moves).threads = first ++ ⟨op, past, .ask r more⟩ :: rest)
    (hr : ∀ c, r ≠ .transfer c) (hanswer : choice.answer (.engine r) d.state = some (a, s)) :
    ∃ moves, Follows ((concurrent policy).run moves)
      ⟨s, before ++ ⟨op, past' ++ [⟨.engine r, a⟩], (more a).supply (wire executor)⟩ :: after ++
        (((wired policy executor).spawned (.engine r)).map Thread.start).toList⟩ := by
  obtain ⟨b, shared, rfl, hshared, rfl⟩ := WiredChoice.answer_engine hanswer
  have hstep := (run_append_singleton moves _).trans
    (Config.step_resume hc (Shared.answer_congr h.store h.drawn hshared))
  refine ⟨moves ++ [.resume first.length b], ?_⟩
  rw [hstep]
  refine ⟨rfl, rfl, ?_, ?_⟩
  · refine List.rel_append (List.rel_append hfirst (.cons (.mk op _ _ (.level _)) hrest)) ?_
    cases r with
    | dispatch id => exact .cons (.mk _ [] [] (.level _)) .nil
    | transfer c => exact absurd rfl (hr c)
    | store _ | now | freshId | publish _ | pause _ => exact .nil
  · exact List.forall_mem_append.mpr ⟨h.supplied, List.forall_mem_singleton.mpr (.of_engine hr)⟩

theorem Follows.ask_ledger {c : (concurrent policy).Config} {call : TransferCall}
    {more : Outcome call.Value → Program interface (Outcome op.Value)} {r : Ledger.Request}
    {next : Ledger.interface.Answer r → Program Ledger.interface (Outcome call.Value)}
    {xs : List (Exchange Ledger.interface)} (a : Ledger.interface.Answer r)
    (past' : List (Exchange wiredInterface)) (h : Follows c d)
    (hfirst : List.Forall₂ (Mirrors executor d.state.calls) first before)
    (hrest : List.Forall₂ (Mirrors executor d.state.calls) rest after)
    (hc : c.threads = first ++ ⟨op, past, .ask (.transfer call) more⟩ :: rest)
    (hreaches : (executor.answer call).outcome.Reaches xs (.ask r next))
    (hxs : xs ⊆ d.state.calls) :
    Follows c ⟨⟨d.state.engine, d.state.calls ++ [⟨r, a⟩]⟩,
      before ++ ⟨op, past' ++ [⟨.ledger r, a⟩],
        (onLedger (next a)).bind fun o => (more o).supply (wire executor)⟩ :: after⟩ := by
  have hcalls : d.state.calls ⊆ d.state.calls ++ [⟨r, a⟩] := List.subset_append_left ..
  have hxs' : xs ++ [(⟨r, a⟩ : Exchange Ledger.interface)] ⊆ d.state.calls ++ [⟨r, a⟩] :=
    List.append_subset.mpr ⟨fun x hx => hcalls (hxs hx), List.subset_append_right ..⟩
  refine ⟨h.store, h.drawn, ?_, fun e he => (h.supplied e he).mono hcalls⟩
  rw [hc]
  refine List.rel_append (hfirst.imp fun _ _ h => h.mono hcalls)
    (.cons ?_ (hrest.imp fun _ _ h => h.mono hcalls))
  exact .mk op _ _ (.inside call more (hreaches.append a) hxs')

theorem follows_start : Follows (concurrent policy).start (wired policy executor).start :=
  ⟨rfl, rfl, .nil, fun _ h => nomatch h⟩

/-- Every run over the ledger is followed by a run of the engine. -/
theorem exists_follows_run (moves : List (wired policy executor).Move) :
    ∃ followed, Follows ((concurrent policy).run followed) ((wired policy executor).run moves) := by
  refine run_induction (M := wired policy executor)
    (P := fun d => ∃ followed, Follows ((concurrent policy).run followed) d)
    (K := fun _ => True) ⟨[], follows_start⟩ ?_ ?_ fun _ _ => trivial
  · rintro moves op - ⟨followed, h⟩
    refine ⟨followed ++ [.start op], ?_⟩
    rw [run_append_singleton]
    refine ⟨h.store, h.drawn, ?_, h.supplied⟩
    exact List.rel_append h.threads (.cons (.mk op [] [] (.level _)) .nil)
  · rintro moves position choice before op past' r next after a s - hd hanswer - ⟨followed, h⟩
    have hthreads := h.threads
    rw [hd] at hthreads
    obtain ⟨first, t, rest, hc, hfirst, ⟨_, past, _, hstage⟩, hrest⟩ :=
      exists_append_of_forall₂ hthreads
    obtain ⟨followed, past, p, h, hc, hready⟩ := exists_ready h hd hfirst hrest hc hstage
    cases hready with
    | engine r hr more => exact h.ask_engine hfirst hrest hc hr hanswer
    | ledger c more r next hreaches hxs =>
        obtain rfl := WiredChoice.answer_ledger hanswer
        refine ⟨followed, ?_⟩
        show Follows _ ⟨_, _ ++ []⟩
        rw [List.append_nil]
        exact h.ask_ledger a past' hfirst hrest hc hreaches hxs

end Runs

end Disburse.Engine
