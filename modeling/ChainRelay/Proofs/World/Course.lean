import ChainRelay.World.Basic

/-!
# Work that only asks

Most work of a relayer changes nothing but the state of its collaborators, the record and the
journal. Such work is described by what it recorded together with how it ended, and descriptions
compose along `bind` without a word about the world.

## Main definitions

* `World.Later w w' events` — `w'` is `w` after `events` were recorded, the rest of it unchanged
* `Work.Always work v` — how `work` ends in every world, whatever it does
* `Work.Asks work post` — `work` leads from every world to a later one, and `post` holds of the
  events and the result
* `Work.Yields p v work` — the same, when all that is to be said is that each event satisfies `p`
  and the value satisfies `v`

## Main results

* `Asks.bind`, `Yields.bind` — the sequencing rules
* `asks_ask`, `asks_log_bind`, `asks_attempt` — the primitives
-/

namespace ChainRelay

variable {σ τ α β : Type}

/-- A world in which nothing has happened yet. -/
def World.initial (env : σ) (clock : τ) : World σ τ where
  store := {}
  cache := {}
  cursors := []
  wall := 0
  mono := clock
  waited := clock
  limits := []
  tokens := 0
  env := env
  trace := []
  journal := []

/-- A later world: the collaborators may be in another state, the record has grown by `events`, and
lines may have been written. Nothing else has changed. -/
def World.Later (w w' : World σ τ) (events : List Event) : Prop :=
  ∃ env journal, w' = { w with env, trace := w.trace ++ events, journal }

namespace World.Later

variable {w w' w'' : World σ τ} {first rest events : List Event}

theorem refl (w : World σ τ) : w.Later w [] :=
  ⟨w.env, w.journal, by simp⟩

theorem trans (h : w.Later w' first) (h' : w'.Later w'' rest) : w.Later w'' (first ++ rest) := by
  obtain ⟨env, journal, rfl⟩ := h
  obtain ⟨env', journal', rfl⟩ := h'
  exact ⟨env', journal', by simp⟩

theorem trace_eq (h : w.Later w' events) : w'.trace = w.trace ++ events := by
  obtain ⟨env, journal, rfl⟩ := h
  rfl

theorem store_eq (h : w.Later w' events) : w'.store = w.store := by
  obtain ⟨env, journal, rfl⟩ := h
  rfl

theorem cache_eq (h : w.Later w' events) : w'.cache = w.cache := by
  obtain ⟨env, journal, rfl⟩ := h
  rfl

/-- The events between two worlds can be read off their records. -/
theorem drop_trace (h : w.Later w' events) : w'.trace.drop w.trace.length = events := by
  rw [h.trace_eq, List.drop_left]

end World.Later

/-- A sequence that ends with a value has a first part that does. -/
theorem exists_of_bind_eq_ok {x : Except Fault α} {f : α → Except Fault β} {b : β}
    (h : x >>= f = .ok b) : ∃ a, x = .ok a ∧ f a = .ok b := by
  cases x with
  | error fault => cases h
  | ok a => exact ⟨a, rfl, h⟩

namespace Work

/-! ### Running a sequence -/

theorem pure_apply (a : α) (w : World σ τ) : (pure a : Work σ τ α) w = (.ok a, w) := rfl

theorem bind_apply (work : Work σ τ α) (next : α → Work σ τ β) (w : World σ τ) :
    (work >>= next) w =
      match work w with
      | (.ok a, w') => next a w'
      | (.error halt, w') => (.error halt, w') := by
  change (ExceptT.bindCont next (work w).1) (work w).2 = _
  cases work w with
  | mk result w' => cases result <;> rfl

theorem bind_apply_of_ok {work : Work σ τ α} {next : α → Work σ τ β} {w w' : World σ τ} {a : α}
    (h : work w = (.ok a, w')) : (work >>= next) w = next a w' := by
  rw [bind_apply, h]

theorem bind_apply_of_error {work : Work σ τ α} {next : α → Work σ τ β} {w w' : World σ τ}
    {halt : Halt} (h : work w = (.error halt, w')) : (work >>= next) w = (.error halt, w') := by
  rw [bind_apply, h]

/-- A sequence that ends with a value did so in both parts. -/
theorem bind_apply_eq_ok {work : Work σ τ α} {next : α → Work σ τ β} {w w'' : World σ τ} {b : β}
    (h : (work >>= next) w = (.ok b, w'')) :
    ∃ a w', work w = (.ok a, w') ∧ next a w' = (.ok b, w'') := by
  rw [bind_apply] at h
  cases hrun : work w with
  | mk result w' =>
    rw [hrun] at h
    cases result with
    | ok a => exact ⟨a, w', rfl, h⟩
    | error halt => cases h

theorem log_apply (line : LogLine) (w : World σ τ) :
    (log line : Work σ τ Unit) w = (.ok (), { w with journal := w.journal ++ [line] }) := rfl

/-- A question leaves the state that its answer comes with, and is recorded with the answer. -/
theorem ask_apply (answers : Answers σ α) (event : Except Fault α → Event) (w : World σ τ) :
    ask answers event w = ((answers w.env).1.mapError Halt.fault, { w with
      env := (answers w.env).2, trace := w.trace ++ [event (answers w.env).1] }) := by
  rw [ask, query]
  cases answers w.env with
  | mk answer env => cases answer <;> rfl

/-- Keeping a fault changes the result only. -/
theorem attempt_snd (work : Work σ τ α) (w : World σ τ) : (attempt work w).2 = (work w).2 := by
  rw [attempt]
  cases work w with
  | mk result w' =>
    cases result with
    | ok a => rfl
    | error halt => cases halt <;> rfl

theorem attempt_apply_of_ok {work : Work σ τ α} {w w' : World σ τ} {a : α}
    (h : work w = (.ok a, w')) : attempt work w = (.ok (.ok a), w') := by
  rw [attempt, h]

/-- A fault is kept as a value. -/
theorem attempt_apply_of_fault {work : Work σ τ α} {w w' : World σ τ} {fault : Fault}
    (h : work w = (.error (.fault fault), w')) : attempt work w = (.ok (.error fault), w') := by
  rw [attempt, h]

theorem now_apply (w : World σ τ) : (now : Work σ τ Instant) w = (.ok w.wallNow, w) := rfl

/-! ### How it ends -/

/-- In every world `work` ends in a way that satisfies `v`. -/
def Always (work : Work σ τ α) (v : Except Halt α → Prop) : Prop := ∀ w, v (work w).1

theorem Always.apply {work : Work σ τ α} {a : α} (h : work.Always (· = .ok a)) (w : World σ τ) :
    work w = (.ok a, (work w).2) :=
  Prod.ext (h w) rfl

/-- After a first part that always ends with a value the rest decides. -/
theorem Always.bind {first : Work σ τ α} {next : α → Work σ τ β} {a : α} {v : Except Halt β → Prop}
    (hfirst : first.Always (· = .ok a)) (hnext : (next a).Always v) :
    (first >>= next).Always v := by
  intro w
  rw [bind_apply_of_ok (hfirst.apply w)]
  exact hnext _

theorem always_pure {a : α} {v : Except Halt α → Prop} (h : v (.ok a)) :
    (pure a : Work σ τ α).Always v := fun _ => h

theorem always_fail {fault : Fault} {v : Except Halt α → Prop} (h : v (.error (.fault fault))) :
    (fail fault : Work σ τ α).Always v := fun _ => h

theorem always_log (line : LogLine) : (log line : Work σ τ Unit).Always (· = .ok ()) :=
  fun _ => rfl

/-! ### What was asked -/

/-- `work` only asks, and `post` holds of what it recorded and how it ended. -/
def Asks (work : Work σ τ α) (post : List Event → Except Halt α → Prop) : Prop :=
  ∀ w, ∃ events, w.Later (work w).2 events ∧ post events (work w).1

/-- `work` only asks, each event that it records satisfies `p`, and so does its value `v`, if it
ends with one. -/
def Yields (p : Event → Prop) (v : α → Prop) (work : Work σ τ α) : Prop :=
  work.Asks fun events result => (∀ e ∈ events, p e) ∧ ∀ a, result = .ok a → v a

variable {work : Work σ τ α} {next : α → Work σ τ β} {p q : Event → Prop} {u : α → Prop}
  {v : β → Prop} {post post' : List Event → Except Halt α → Prop}
  {post₂ : List Event → Except Halt β → Prop}

theorem Asks.mono (h : work.Asks post) (hpost : ∀ events result, post events result →
    post' events result) : work.Asks post' := by
  intro w
  obtain ⟨events, later, holds⟩ := h w
  exact ⟨events, later, hpost _ _ holds⟩

/-- **Sequencing.** If the first part ends with a value, the second goes on from there; if not, the
first part was all that happened. -/
theorem Asks.bind (h : work.Asks post)
    (hnext : ∀ a first, post first (.ok a) →
      (next a).Asks fun rest result => post₂ (first ++ rest) result)
    (hhalt : ∀ halt events, post events (.error halt) → post₂ events (.error halt)) :
    (work >>= next).Asks post₂ := by
  intro w
  obtain ⟨first, later, holds⟩ := h w
  rw [bind_apply]
  cases hrun : work w with
  | mk result w' =>
    rw [hrun] at later holds
    cases result with
    | ok a =>
      obtain ⟨rest, later', holds'⟩ := hnext a first holds w'
      exact ⟨first ++ rest, later.trans later', holds'⟩
    | error halt => exact ⟨first, later, hhalt halt first holds⟩

theorem Yields.bind (h : work.Yields p u) (hnext : ∀ a, u a → (next a).Yields p v) :
    (work >>= next).Yields p v := by
  refine Asks.bind h ?_ ?_
  · intro a first ⟨hfirst, hu⟩
    refine (hnext a (hu a rfl)).mono fun rest result ⟨hrest, hv⟩ => ⟨fun e he => ?_, hv⟩
    rcases List.mem_append.mp he with he | he
    · exact hfirst e he
    · exact hrest e he
  · intro halt events ⟨hevents, _⟩
    exact ⟨hevents, fun _ h => by cases h⟩

theorem Yields.mono {u' : α → Prop} (h : work.Yields p u) (hpq : ∀ e, p e → q e)
    (hu : ∀ a, u a → u' a) : work.Yields q u' :=
  Asks.mono h fun _ _ ⟨hp, hv⟩ => ⟨fun e he => hpq e (hp e he), fun a ha => hu a (hv a ha)⟩

/-! ### Primitives -/

theorem asks_pure (a : α) :
    (pure a : Work σ τ α).Asks fun events result => events = [] ∧ result = .ok a :=
  fun w => ⟨[], World.Later.refl w, rfl, rfl⟩

theorem asks_fail (fault : Fault) :
    (fail fault : Work σ τ α).Asks fun events result =>
      events = [] ∧ result = .error (.fault fault) :=
  fun w => ⟨[], World.Later.refl w, rfl, rfl⟩

theorem asks_log (line : LogLine) :
    (log line : Work σ τ Unit).Asks fun events result => events = [] ∧ result = .ok () :=
  fun w => ⟨[], ⟨w.env, w.journal ++ [line], by simp [log_apply]⟩, rfl, rfl⟩

/-- A question leaves one event, and its answer is the result. -/
theorem asks_ask (answers : Answers σ α) (event : Except Fault α → Event) :
    (ask answers event : Work σ τ α).Asks fun events result =>
      ∃ answer, events = [event answer] ∧ result = answer.mapError Halt.fault := by
  intro w
  rw [ask_apply]
  exact ⟨_, ⟨_, w.journal, rfl⟩, _, rfl, rfl⟩

/-- A line that is written first makes no difference. -/
theorem asks_log_bind {line : LogLine} {next : Unit → Work σ τ α} (h : (next ()).Asks post) :
    (log line >>= next).Asks post := by
  refine Asks.bind (asks_log line) ?_ ?_
  · rintro _ first ⟨rfl, -⟩
    exact h
  · rintro halt events ⟨-, hok⟩
    cases hok

/-- The result of a question tells its answer. -/
theorem mapError_fault_injective {answer answer' : Except Fault α}
    (h : answer.mapError Halt.fault = answer'.mapError Halt.fault) : answer = answer' := by
  cases answer <;> cases answer' <;> cases h <;> rfl

/-- A fault that was kept is the only difference that `attempt` makes. -/
theorem asks_attempt (h : work.Asks post) :
    (attempt work).Asks fun events result =>
      match result with
      | .ok kept => post events (kept.mapError Halt.fault)
      | .error halt => post events (.error halt) := by
  intro w
  obtain ⟨events, later, holds⟩ := h w
  refine ⟨events, (attempt_snd work w).symm ▸ later, ?_⟩
  rw [attempt]
  cases hrun : work w with
  | mk result w' =>
    rw [hrun] at holds
    cases result with
    | ok a => exact holds
    | error halt => cases halt <;> exact holds

/-- A question whose faults are kept ends with its answer, whatever that is. -/
theorem attempt_ask (answers : Answers σ α) (event : Except Fault α → Event) (w : World σ τ) :
    attempt (ask answers event) w =
      (.ok (query answers event w).1, (query answers event w).2) := by
  rw [attempt, ask]
  cases query answers event w with
  | mk answer w' => cases answer <;> rfl

theorem asks_attempt_ask (answers : Answers σ α) (event : Except Fault α → Event) :
    (attempt (ask answers event) : Work σ τ (Except Fault α)).Asks fun events result =>
      ∃ answer, events = [event answer] ∧ result = .ok answer := by
  intro w
  rw [attempt_ask]
  exact ⟨_, ⟨(answers w.env).2, w.journal, rfl⟩, _, rfl, rfl⟩

theorem yields_pure {a : α} (h : u a) : (pure a : Work σ τ α).Yields p u :=
  Asks.mono (asks_pure a) fun _ _ ⟨hnil, hok⟩ =>
    ⟨by simp [hnil], fun b hb => by cases hok.symm.trans hb; exact h⟩

theorem yields_fail (fault : Fault) : (fail fault : Work σ τ α).Yields p u :=
  Asks.mono (asks_fail fault) fun _ _ ⟨hnil, herror⟩ =>
    ⟨by simp [hnil], fun b hb => by cases herror.symm.trans hb⟩

theorem yields_log (line : LogLine) : (log line : Work σ τ Unit).Yields p fun _ => True :=
  Asks.mono (asks_log line) fun _ _ ⟨hnil, _⟩ => ⟨by simp [hnil], fun _ _ => trivial⟩

theorem yields_ofExcept (value : Except Fault α) :
    (ofExcept value : Work σ τ α).Yields p fun _ => True := by
  cases value with
  | ok a => exact yields_pure trivial
  | error fault => exact yields_fail fault

theorem yields_ask {answers : Answers σ α} {event : Except Fault α → Event}
    (h : ∀ answer, p (event answer)) :
    (ask answers event : Work σ τ α).Yields p fun _ => True := by
  refine Asks.mono (asks_ask answers event) ?_
  rintro events result ⟨answer, rfl, -⟩
  exact ⟨by simpa using h answer, fun _ _ => trivial⟩

/-- The value that was kept, if there is one, is that of the work. -/
theorem yields_attempt_value (h : work.Yields p u) :
    (attempt work).Yields p fun kept => ∀ a, kept = .ok a → u a :=
  Asks.mono (asks_attempt h) fun _ result holds =>
    ⟨by cases result <;> exact holds.1, fun kept hkept a ha => by
      subst hkept ha
      exact holds.2 a rfl⟩

theorem yields_attempt (h : work.Yields p fun _ => True) :
    (attempt work).Yields p fun _ => True :=
  (yields_attempt_value h).mono (fun _ => id) fun _ _ => trivial

end Work

end ChainRelay
