import ChainRelay.Proofs.Confirmation.Resolution
import ChainRelay.Proofs.World.Course

/-!
# Work that goes alike

Two runs of similar work are compared: from worlds that are alike they end in the same way, in
worlds that are alike, with the same record as far as it is in view. What is alike about the
collaborators is up to a relation between their states, and the two runs may have collaborators of
different kinds.

## The contract

Alike worlds show the same time, now and after everything that the work does. Apart from that only
the states of the collaborators are compared: the work in question reads nothing else.

## Main definitions

* `Answers.Alike` — collaborators that say the same in related states
* `World.SameTime` — worlds with related states that show the same time
* `Work.Alike` — work that goes alike in both

## Main results

* `Work.Alike.bind`, `Work.Alike.mapM` — the sequencing rules
* `Work.alike_ask`, `Work.Alike.attempt`, `Relayer.resolveTransaction_alike` — the primitives

## Implementation notes

The relation need not be reflexive: a question whose answer depends on more of the state than is
related is not alike to itself.
-/

namespace ChainRelay

variable {σ σ' τ α β : Type}

/-- Answers that say the same in related states and leave related states. -/
def Answers.Alike (E : σ → σ' → Prop) (answers : Answers σ α) (answers' : Answers σ' α) : Prop :=
  ∀ s s', E s s' → (answers s).1 = (answers' s').1 ∧ E (answers s).2 (answers' s').2

/-- Worlds whose collaborators are in related states, and whose clocks show the same in all related
states. -/
structure World.SameTime (E : σ → σ' → Prop) (w : World σ τ) (w' : World σ' τ) : Prop where
  env : E w.env w'.env
  clock : ∀ s s', E s s' → w.wallShown s w.wall = w'.wallShown s' w'.wall

namespace World.SameTime

variable {E : σ → σ' → Prop} {w v : World σ τ} {w' v' : World σ' τ} {events events' : List Event}

theorem wallNow_eq (h : w.SameTime E w') : w.wallNow = w'.wallNow := h.clock _ _ h.env

theorem later (h : w.SameTime E w') (hv : w.Later v events) (hv' : w'.Later v' events')
    (henv : E v.env v'.env) : v.SameTime E v' := by
  obtain ⟨env, journal, rfl⟩ := hv
  obtain ⟨env', journal', rfl⟩ := hv'
  exact ⟨henv, h.clock⟩

end World.SameTime

namespace Work

/-- Work that goes alike in alike worlds: it only asks, ends in the same way, leaves related states,
and what is in view of the records is the same. -/
def Alike (E : σ → σ' → Prop) (view : Event → Bool) (work : Work σ τ α) (work' : Work σ' τ α) :
    Prop :=
  ∀ w w', w.SameTime E w' → ∃ events events',
    w.Later (work w).2 events ∧ w'.Later (work' w').2 events' ∧
      (work w).1 = (work' w').1 ∧ E (work w).2.env (work' w').2.env ∧
      events.filter view = events'.filter view

variable {E : σ → σ' → Prop} {view : Event → Bool} {work : Work σ τ α} {work' : Work σ' τ α}
  {next : α → Work σ τ β} {next' : α → Work σ' τ β}

/-! ### Primitives -/

theorem alike_pure (a : α) :
    (pure a : Work σ τ α).Alike E view (pure a : Work σ' τ α) :=
  fun w w' h => ⟨[], [], .refl w, .refl w', rfl, h.env, rfl⟩

theorem alike_fail (fault : Fault) :
    (fail fault : Work σ τ α).Alike E view (fail fault : Work σ' τ α) :=
  fun w w' h => ⟨[], [], .refl w, .refl w', rfl, h.env, rfl⟩

theorem alike_ofExcept (value : Except Fault α) :
    (ofExcept value : Work σ τ α).Alike E view (ofExcept value : Work σ' τ α) := by
  cases value with
  | ok a => exact alike_pure a
  | error fault => exact alike_fail fault

theorem alike_log (line : LogLine) :
    (log line : Work σ τ Unit).Alike E view (log line : Work σ' τ Unit) :=
  fun w w' h => ⟨[], [], ⟨w.env, _, by rw [List.append_nil]; rfl⟩,
    ⟨w'.env, _, by rw [List.append_nil]; rfl⟩, rfl, h.env, rfl⟩

theorem alike_now : (now : Work σ τ Instant).Alike E view (now : Work σ' τ Instant) :=
  fun w w' h => ⟨[], [], .refl w, .refl w', congrArg Except.ok h.wallNow_eq, h.env, rfl⟩

/-- A question goes alike if it is answered alike. -/
theorem alike_ask {answers : Answers σ α} {answers' : Answers σ' α} (h : answers.Alike E answers')
    (event : Except Fault α → Event) :
    (ask answers event : Work σ τ α).Alike E view (ask answers' event : Work σ' τ α) := by
  intro w w' hw
  obtain ⟨hanswer, henv⟩ := h _ _ hw.env
  rw [ask_apply, ask_apply, hanswer]
  exact ⟨_, _, ⟨_, w.journal, rfl⟩, ⟨_, w'.journal, rfl⟩, rfl, henv, rfl⟩

/-! ### Sequences -/

/-- **Sequencing.** -/
theorem Alike.bind (h : work.Alike E view work')
    (hnext : ∀ a, (next a).Alike E view (next' a)) :
    (work >>= next).Alike E view (work' >>= next') := by
  intro w w' hw
  obtain ⟨first, first', hlater, hlater', hsame, henv, hview⟩ := h w w' hw
  rw [bind_apply, bind_apply]
  cases hrun : work w with
  | mk result v =>
    cases hrun' : work' w' with
    | mk result' v' =>
      rw [hrun, hrun'] at hsame henv
      rw [hrun] at hlater
      rw [hrun'] at hlater'
      obtain rfl : result = result' := hsame
      cases result with
      | error halt => exact ⟨first, first', hlater, hlater', rfl, henv, hview⟩
      | ok a =>
        obtain ⟨rest, rest', hrest, hrest', hend, henv', hview'⟩ :=
          hnext a v v' (hw.later hlater hlater' henv)
        refine ⟨_, _, hlater.trans hrest, hlater'.trans hrest', hend, henv', ?_⟩
        rw [List.filter_append, List.filter_append, hview, hview']

/-- Keeping a fault as a value. -/
theorem Alike.attempt (h : work.Alike E view work') :
    (attempt work).Alike E view (attempt work') := by
  intro w w' hw
  obtain ⟨events, events', hlater, hlater', hsame, henv, hview⟩ := h w w' hw
  refine ⟨events, events', ?_, ?_, ?_, ?_, hview⟩
  · rw [attempt_snd]
    exact hlater
  · rw [attempt_snd]
    exact hlater'
  · rw [Work.attempt, Work.attempt]
    cases hrun : work w with
    | mk result v =>
      cases hrun' : work' w' with
      | mk result' v' =>
        rw [hrun, hrun'] at hsame
        obtain rfl : result = result' := hsame
        cases result with
        | ok a => rfl
        | error halt => cases halt <;> rfl
  · rw [attempt_snd, attempt_snd]
    exact henv

/-- The items of a batch are worked off alike if each one is. -/
theorem Alike.mapM {work : WorkItem → Work σ τ β} {work' : WorkItem → Work σ' τ β}
    (h : ∀ item, (work item).Alike E view (work' item)) (items : List WorkItem) :
    (items.mapM work).Alike E view (items.mapM work') := by
  induction items with
  | nil => exact alike_pure []
  | cons item rest ih =>
    rw [List.mapM_cons, List.mapM_cons]
    exact (h item).bind fun b => ih.bind fun bs => alike_pure (b :: bs)

end Work

/-- What is in flight is resolved alike if the chain answers alike. -/
theorem Relayer.resolveTransaction_alike {E : σ → σ' → Prop} {view : Event → Bool}
    {r : Relayer σ} {r' : Relayer σ'} {txHash : String}
    (h : (r.collaborators.chain.transaction txHash).Alike E
      (r'.collaborators.chain.transaction txHash)) (logger : String) (sentAt : Instant) :
    (r.resolveTransaction logger txHash sentAt : Work σ τ Confirmation).Alike E view
      (r'.resolveTransaction logger txHash sentAt : Work σ' τ Confirmation) := by
  intro w w' hw
  obtain ⟨hanswer, henv⟩ := h _ _ hw.env
  obtain ⟨journal, hrun⟩ := r.resolveTransaction_apply logger txHash sentAt w
  obtain ⟨journal', hrun'⟩ := r'.resolveTransaction_apply logger txHash sentAt w'
  have hsighting : r.sighting txHash w = r'.sighting txHash w' := hanswer
  have hclock : (r.lookedAt txHash w).wallNow = (r'.lookedAt txHash w').wallNow :=
    hw.clock _ _ henv
  rw [hrun, hrun']
  refine ⟨[.lookedUp txHash (r.sighting txHash w)], [.lookedUp txHash (r'.sighting txHash w')],
    ⟨_, journal, rfl⟩, ⟨_, journal', rfl⟩, ?_, henv, by rw [hsighting]⟩
  change Except.ok _ = Except.ok _
  rw [hsighting, hclock]

end ChainRelay
