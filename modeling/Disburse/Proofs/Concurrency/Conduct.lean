import Disburse.Proofs.Concurrency.Machine
import Mathlib.Data.List.Induction

/-!
What a program does by itself. A code says which answers may be counted on, and which requests
are in order after what was asked and answered so far. A program that obeys it does so whatever
else happens, so that every thread of every run does.
-/

namespace Disburse

/-- A program, answered like this, goes on as another one. -/
inductive Program.Reaches {I : Interface} {α : Type} :
    Program I α → List (Exchange I) → Program I α → Prop where
  | refl (p : Program I α) : Reaches p [] p
  | ask {r : I.Request} {next : I.Answer r → Program I α} {a : I.Answer r}
      {xs : List (Exchange I)} {q : Program I α} (h : Reaches (next a) xs q) :
      Reaches (.ask r next) (⟨r, a⟩ :: xs) q

theorem Program.Reaches.append {I : Interface} {α : Type} {p : Program I α}
    {xs : List (Exchange I)} {r : I.Request} {next : I.Answer r → Program I α}
    (h : p.Reaches xs (.ask r next)) (a : I.Answer r) :
    p.Reaches (xs ++ [⟨r, a⟩]) (next a) := by
  generalize hq : Program.ask r next = q at h
  induction h with
  | refl p =>
      subst hq
      exact .ask (.refl _)
  | ask _ ih => exact .ask (ih hq)

theorem Program.Reaches.bind {I : Interface} {α β : Type} {p : Program I α} {a : α}
    {xs : List (Exchange I)} (h : p.Reaches xs (.done a)) (f : α → Program I β) :
    (p.bind f).Reaches xs (f a) := by
  generalize hq : Program.done a = q at h
  induction h with
  | refl p =>
      subst hq
      exact .refl _
  | ask _ ih => exact .ask (ih hq)

/-- Which answers may be counted on, and which requests are in order behind which others. -/
structure Code (I : Interface) where
  faithful : Exchange I → Prop
  allows : List (Exchange I) → I.Request → Prop

namespace Code

variable {I : Interface} (C : Code I) {α β : Type}

/-- All requests of a program are in order, and it ends as `Q` says. -/
def Obeys : Program I α → (α → List (Exchange I) → Prop) → List (Exchange I) → Prop
  | .done a, Q, past => Q a past
  | .ask r next, Q, past =>
    C.allows past r ∧ ∀ a, C.faithful ⟨r, a⟩ → Obeys (next a) Q (past ++ [⟨r, a⟩])

variable {C} {Q : α → List (Exchange I) → Prop} {past : List (Exchange I)}

theorem Obeys.imp {R : α → List (Exchange I) → Prop} {p : Program I α} (h : C.Obeys p Q past)
    (himp : ∀ a past', Q a past' → R a past') : C.Obeys p R past := by
  induction p generalizing past with
  | done a => exact himp a past h
  | ask r next ih => exact ⟨h.1, fun a ha => ih a (h.2 a ha)⟩

theorem obeys_bind {p : Program I α} {f : α → Program I β} {Q : β → List (Exchange I) → Prop} :
    C.Obeys (p.bind f) Q past ↔ C.Obeys p (fun a past' => C.Obeys (f a) Q past') past := by
  induction p generalizing past with
  | done a => rfl
  | ask r next ih =>
      constructor
      · exact fun h => ⟨h.1, fun a ha => (ih a).mp (h.2 a ha)⟩
      · exact fun h => ⟨h.1, fun a ha => (ih a).mpr (h.2 a ha)⟩

theorem Obeys.of_reaches {p q : Program I α} {xs : List (Exchange I)} (h : C.Obeys p Q past)
    (hreaches : p.Reaches xs q) (hxs : ∀ x ∈ xs, C.faithful x) : C.Obeys q Q (past ++ xs) := by
  induction hreaches generalizing past with
  | refl p => simpa using h
  | ask _ ih =>
      rw [List.forall_mem_cons] at hxs
      simpa using ih (h.2 _ hxs.1) hxs.2

theorem Obeys.and {D : Code I} {R : α → List (Exchange I) → Prop} {p : Program I α}
    (h : C.Obeys p Q past) (h' : D.Obeys p R past) (hfaithful : ∀ x, C.faithful x → D.faithful x) :
    C.Obeys p (fun a past' => Q a past' ∧ R a past') past := by
  induction p generalizing past with
  | done a => exact ⟨h, h'⟩
  | ask r next ih => exact ⟨h.1, fun a ha => ih a (h.2 a ha) (h'.2 a (hfaithful _ ha))⟩

/-- The code that allows everything, for what is known about the end of a program. -/
def free (I : Interface) : Code I where
  faithful _ := True
  allows _ _ := True

theorem obeys_of_allows {p : Program I α} (hallows : ∀ past r, C.allows past r) :
    C.Obeys p (fun _ _ => True) past := by
  induction p generalizing past with
  | done a => trivial
  | ask r next ih => exact ⟨hallows past r, fun a _ => ih a⟩

theorem obeys_free {p : Program I α} : (free I).Obeys p (fun _ _ => True) past :=
  obeys_of_allows fun _ _ => trivial

theorem of_reaches_done {p : Program I α} {a : α} {xs : List (Exchange I)}
    (h : (free I).Obeys p Q []) (hreaches : p.Reaches xs (.done a)) : Q a xs :=
  h.of_reaches hreaches fun _ _ => trivial

/-- A task whose program obeys a code. -/
def Heeds (C : Code I) (t : Task I α) (Q : Outcome α → List (Exchange I) → Prop) :
    List (Exchange I) → Prop :=
  C.Obeys t.outcome Q

variable {Q : Outcome α → List (Exchange I) → Prop}

theorem Heeds.imp {R : Outcome α → List (Exchange I) → Prop} {t : Task I α}
    (h : C.Heeds t Q past) (himp : ∀ o past', Q o past' → R o past') : C.Heeds t R past :=
  Obeys.imp h himp

theorem heeds_pure {a : α} : C.Heeds (pure a) Q past ↔ Q (.ok a) past :=
  Iff.rfl

theorem heeds_fail {e : Error} : C.Heeds (Task.fail e) Q past ↔ Q (.error (.error e)) past :=
  Iff.rfl

theorem Heeds.bind {R : Outcome β → List (Exchange I) → Prop} {t : Task I β} {f : β → Task I α}
    (ht : C.Heeds t R past) (hf : ∀ b past', R (.ok b) past' → C.Heeds (f b) Q past')
    (herror : ∀ e past', R (.error e) past' → Q (.error e) past') :
    C.Heeds (t >>= f) Q past := by
  refine obeys_bind.mpr (Obeys.imp ht ?_)
  rintro (e | b) past' h
  · exact herror e past' h
  · exact hf b past' h

theorem heeds_attempt {t : Task I α} {Q : Outcome (Except Error α) → List (Exchange I) → Prop} :
    C.Heeds t.attempt Q past ↔
      C.Heeds t (fun o =>
        match o with
        | .ok a => Q (.ok (.ok a))
        | .error (.error e) => Q (.ok (.error e))
        | .error .crash => Q (.error .crash)) past := by
  refine obeys_bind.trans ?_
  constructor
  all_goals
    refine fun h => Obeys.imp h ?_
    rintro ((e | _) | a) past' h'
    all_goals exact h'

/-- A task obeys a code whatever came before it, and this can be said of its value. -/
def Minds (C : Code I) (t : Task I α) (R : α → Prop) : Prop :=
  ∀ past, C.Heeds t (fun o _ => ∀ a, o = .ok a → R a) past

namespace Minds

variable {R : α → Prop} {S : β → Prop}

theorem pure {a : α} (h : R a) : C.Minds (pure a) R := by
  intro _
  exact heeds_pure.mpr fun _ hb => Except.ok.inj hb ▸ h

theorem fail {e : Error} : C.Minds (Task.fail e) R := by
  intro _
  exact heeds_fail.mpr nofun

theorem ofOutcome {o : Outcome α} (h : ∀ a, o = .ok a → R a) : C.Minds (Task.ofOutcome o) R := by
  intro _
  exact h

theorem ofInRange {value? : Option α} (h : ∀ a, value? = some a → R a) :
    C.Minds (Task.ofOutcome (.ofInRange value?)) R := by
  cases value? with
  | none => exact ofOutcome nofun
  | some value => exact pure (h value rfl)

theorem ofExcept {result : Except Error α} (h : ∀ a, result = .ok a → R a) :
    C.Minds (Task.ofOutcome (.ofExcept result)) R := by
  cases result with
  | error e => exact fail
  | ok value => exact pure (h value rfl)

theorem bind {t : Task I α} {f : α → Task I β} (ht : C.Minds t R)
    (hf : ∀ a, R a → C.Minds (f a) S) : C.Minds (t >>= f) S := by
  intro past
  exact (ht past).bind (fun a past' ha => hf a (ha a rfl) past') nofun

theorem attempt {t : Task I α} (h : C.Minds t R) :
    C.Minds t.attempt fun result => ∀ a, result = .ok a → R a := by
  intro past
  refine heeds_attempt.mpr ((h past).imp ?_)
  rintro ((e | _) | a) past' ha
  · rintro _ ho _ hok
    cases ho
    cases hok
  · exact nofun
  · rintro _ ho b hok
    cases ho
    exact ha b (congrArg Except.ok (Except.ok.inj hok))

end Minds

end Code

namespace Machine

variable {I : Interface} {M : Machine I}

/-- What holds at the start, and is kept by each start of an operation and by each request of a
thread, holds of every run of moves of a kind. -/
theorem run_induction {P : M.Config → Prop} {K : M.Move → Prop} (hinitial : P M.start)
    (hstart : ∀ moves op, K (.start op) → P (M.run moves) →
      P { (M.run moves) with threads := (M.run moves).threads ++ [.start op] })
    (hask : ∀ moves position choice before op past r next after a s,
      K (.resume position choice) →
      (M.run moves).threads = before ++ ⟨op, past, .ask r next⟩ :: after →
      M.answer choice r (M.run moves).state = some (a, s) →
      (M.run (moves ++ [.resume position choice])).state = s →
      P (M.run moves) →
      P ⟨s, before ++ ⟨op, past ++ [⟨r, a⟩], next a⟩ :: after ++
        ((M.spawned r).map Thread.start).toList⟩)
    {moves : List M.Move} (hmoves : ∀ move ∈ moves, K move) : P (M.run moves) := by
  induction moves using List.reverseRecOn with
  | nil => exact hinitial
  | append_singleton moves move ih =>
      have ih := ih fun m hm => hmoves m (List.mem_append_left _ hm)
      have hlast : K move := hmoves move (by simp)
      have hrun := run_append_singleton moves move
      rw [hrun]
      obtain hstep | ⟨op, rfl, -, hstep⟩ |
        ⟨position, choice, rfl, before, op, past, r, next, after, a, s, hthreads, hanswer, hstep⟩ :=
        (M.run moves).step_cases move
      · rwa [hstep]
      · rw [hstep]
        exact hstart moves op hlast ih
      · rw [hstep] at hrun ⊢
        exact hask moves position choice before op past r next after a s hlast hthreads hanswer
          (by rw [hrun]) ih

/-- What holds of a thread at its start, and is kept by each of its requests while the state is as
`S` says, holds of all threads that are started once the state stays so. -/
theorem forall_later_threads_run {S : M.State → Prop} {P : M.Thread → Prop} {first : List M.Move}
    (hstate : ∀ more, S (M.run (first ++ more)).state) (hstart : ∀ op, P (.start op))
    (hask : ∀ op past r next choice a s s', P ⟨op, past, .ask r next⟩ → S s →
      M.answer choice r s = some (a, s') → P ⟨op, past ++ [⟨r, a⟩], next a⟩)
    (more : List M.Move) (n : Nat) (t : M.Thread) (hn : (M.run first).threads.length ≤ n)
    (ht : (M.run (first ++ more)).threads[n]? = some t) : P t := by
  induction more using List.reverseRecOn generalizing n t with
  | nil =>
      rw [List.append_nil, List.getElem?_eq_none hn] at ht
      cases ht
  | append_singleton more move ih =>
      rw [← List.append_assoc, run_append_singleton] at ht
      obtain hstep | ⟨op, -, -, hstep⟩ |
        ⟨-, choice, -, before, op, past, r, next, after, a, s, hthreads, hanswer, hstep⟩ :=
        (M.run (first ++ more)).step_cases move
      · rw [hstep] at ht
        exact ih n t hn ht
      · rw [hstep, List.getElem?_append] at ht
        split at ht
        · exact ih n t hn ht
        · obtain rfl := List.mem_singleton.mp (List.mem_of_getElem? ht)
          exact hstart op
      · rw [hstep, List.getElem?_append] at ht
        split at ht
        -- Threads in front of the resumed one, this one, and those behind it.
        · rcases Nat.lt_trichotomy n before.length with hlt | rfl | hlt
          · refine ih n t hn ?_
            rw [hthreads, List.getElem?_append_left hlt]
            rwa [List.getElem?_append_left hlt] at ht
          · rw [List.getElem?_append_right (Nat.le_refl _), Nat.sub_self, List.getElem?_cons_zero,
              Option.some.injEq] at ht
            subst ht
            refine hask op past r next choice a _ s (ih before.length _ hn ?_) (hstate more) hanswer
            rw [hthreads, List.getElem?_append_right (Nat.le_refl _), Nat.sub_self,
              List.getElem?_cons_zero]
          · obtain ⟨k, rfl⟩ := Nat.exists_eq_add_of_lt hlt
            refine ih _ t hn ?_
            rw [hthreads, List.getElem?_append_right (by omega)]
            rw [List.getElem?_append_right (by omega)] at ht
            rw [show before.length + k + 1 - before.length = k + 1 by omega] at ht ⊢
            simpa using ht
        · have hmem := List.mem_of_getElem? ht
          rw [Option.mem_toList, Option.map_eq_some_iff] at hmem
          obtain ⟨started, -, rfl⟩ := hmem
          exact hstart started

/-- A thread has kept to its code so far, and goes on to do so. -/
structure Thread.Abides (C : M.Op → Code I)
    (final : (op : M.Op) → M.Value op → List (Exchange I) → Prop) (t : M.Thread) : Prop where
  rest : (C t.op).Obeys t.rest (final t.op) t.past
  allowed : ∀ before x, before ++ [x] <+: t.past → (C t.op).allows before x.request
  faithful : ∀ x ∈ t.past, (C t.op).faithful x

theorem Thread.Abides.start {C : M.Op → Code I}
    {final : (op : M.Op) → M.Value op → List (Exchange I) → Prop} {op : M.Op}
    (h : (C op).Obeys (M.program op) (final op) []) : (Thread.start op).Abides C final :=
  ⟨h, fun before x hx => by simp [Thread.start] at hx, by simp [Thread.start]⟩

theorem Thread.Abides.ask {C : M.Op → Code I}
    {final : (op : M.Op) → M.Value op → List (Exchange I) → Prop} {op : M.Op}
    {past : List (Exchange I)} {r : I.Request} {next : I.Answer r → Program I (M.Value op)}
    {a : I.Answer r} (h : Thread.Abides C final ⟨op, past, .ask r next⟩)
    (hx : (C op).faithful ⟨r, a⟩) : Thread.Abides C final ⟨op, past ++ [⟨r, a⟩], next a⟩ := by
  obtain ⟨⟨hallows, hrest⟩, hallowed, hfaithful⟩ := h
  refine ⟨hrest a hx, forall_prefix_append hallowed hallows, fun x hmem => ?_⟩
  rcases List.mem_append.mp hmem with hmem | hmem
  · exact hfaithful x hmem
  · exact List.mem_singleton.mp hmem ▸ hx

/-- What holds of the state at the start and is kept by every request that a code allows, if it is
also what makes answers count, holds throughout every run, and all threads keep to their codes. -/
theorem invariant_and_abides_run {S : M.State → Prop} {C : M.Op → Code I}
    {final : (op : M.Op) → M.Value op → List (Exchange I) → Prop} (hinitial : S M.initial)
    (hprogram : ∀ op, (C op).Obeys (M.program op) (final op) [])
    (hanswer : ∀ op past choice r s a s', S s → (C op).allows past r →
      M.answer choice r s = some (a, s') → (C op).faithful ⟨r, a⟩ ∧ S s')
    (moves : List M.Move) :
    S (M.run moves).state ∧ ∀ t ∈ (M.run moves).threads, t.Abides C final := by
  refine run_induction (P := fun c => S c.state ∧ ∀ t ∈ c.threads, t.Abides C final)
    (K := fun _ => True) ⟨hinitial, by simp [Machine.start]⟩ ?_ ?_ (fun _ _ => trivial)
  · rintro moves op - ⟨hstate, habides⟩
    refine ⟨hstate, fun t ht => ?_⟩
    rcases List.mem_append.mp ht with ht | ht
    · exact habides t ht
    · exact List.mem_singleton.mp ht ▸ .start (hprogram op)
  · rintro moves position choice before op past r next after a s - hthreads ha - ⟨hstate, habides⟩
    rw [hthreads] at habides
    have hthread := habides ⟨op, past, .ask r next⟩ (by simp)
    obtain ⟨hfaithful, hstate'⟩ := hanswer op past choice r _ a s hstate hthread.rest.1 ha
    refine ⟨hstate', fun t ht => ?_⟩
    simp only [List.mem_append, List.mem_cons, Option.mem_toList, Option.map_eq_some_iff] at ht
    rcases ht with (ht | rfl | ht) | ⟨started, -, rfl⟩
    · exact habides t (by simp [ht])
    · exact hthread.ask hfaithful
    · exact habides t (by simp [ht])
    · exact .start (hprogram started)

theorem abides_of_mem_run {C : M.Op → Code I}
    {final : (op : M.Op) → M.Value op → List (Exchange I) → Prop}
    (hprogram : ∀ op, (C op).Obeys (M.program op) (final op) [])
    (hanswer : ∀ op choice r s a s', M.answer choice r s = some (a, s') →
      (C op).faithful ⟨r, a⟩)
    {moves : List M.Move} {t : M.Thread} (ht : t ∈ (M.run moves).threads) :
    t.Abides C final :=
  (invariant_and_abides_run (S := fun _ => True) trivial hprogram
    (fun op _ choice r s a s' _ _ h => ⟨hanswer op choice r s a s' h, trivial⟩) moves).2 t ht

theorem Thread.Abides.final_of_done {C : M.Op → Code I}
    {final : (op : M.Op) → M.Value op → List (Exchange I) → Prop} {t : M.Thread}
    (h : t.Abides C final) (hdone : t.isDone = true) : ∃ value, final t.op value t.past := by
  obtain ⟨op, past, rest⟩ := t
  cases rest with
  | done value => exact ⟨value, h.rest⟩
  | ask r next => simp [Thread.isDone] at hdone

end Machine

end Disburse
