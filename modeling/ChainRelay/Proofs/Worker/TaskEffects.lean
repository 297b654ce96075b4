import ChainRelay.Proofs.World.Writes
import ChainRelay.Worker.Tasks

/-!
# What tasks write

Every handler of a task first reads all that it needs and then writes to one of the two queues. So a
task is refused as it stands or processed as a whole: which of the two depends on the task alone,
and what is written depends on the queues and on the clocks.

## The contract

The time to live of pending broadcasts is one that a clock can show. One that is too large would be
found out only after the entry was written.

## Main definitions

* `Writing` — what is written, as a function of the queues and the clocks
* `Relayer.Refuses`, `Relayer.Accepts` — the two kinds of tasks
* `Relayer.applied` — tasks applied one after the other

## Main results

* `Relayer.refuses_or_accepts` — a task is of one of the two kinds, in all worlds alike
* `Relayer.applied_alike` — what tasks write depends on queues and clocks only
-/

namespace ChainRelay

variable {σ τ α : Type}

/-- The cursor that was set, with its value. -/
def Event.cursorSet? : Event → Option (String × String)
  | cursorSet name value => some (name, value)
  | _ => none

/-! ### Writings -/

/-- What work writes to the two queues, by what it finds there and by what the clocks show. -/
structure Writing (τ α : Type) where
  value : α
  store : Store → Instant → Store := fun s _ => s
  cache : Cache τ → Instant → τ → Cache τ := fun c _ _ => c
  events : Store → List Event := fun _ => []
  lines : List LogLine := []

namespace Writing

/-- Write. -/
def run (d : Writing τ α) (w : World σ τ) : Except Halt α × World σ τ :=
  (.ok d.value, { w with
    store := d.store w.store w.wallNow
    cache := d.cache w.cache w.wallNow w.monoNow
    trace := w.trace ++ d.events w.store
    journal := w.journal ++ d.lines })

end Writing

namespace Work

variable [Seconds τ]

omit [Seconds τ] in
/-- Work that is refused as it stands, or writes as a whole, in all worlds alike. -/
def Whole (work : Work σ τ α) : Prop :=
  (∃ fault, ∀ w, work w = (.error (.fault fault), w)) ∨
    ∃ d : Writing τ α, (∀ s, ∀ e ∈ d.events s, e.cursorSet? = none) ∧ ∀ w, work w = d.run w

omit [Seconds τ] in
/-- The item of a task is written if it can be made. -/
theorem whole_enqueueItem (item : Except Fault WorkItem) :
    (Relayer.enqueueItem item : Work σ τ Unit).Whole := by
  cases item with
  | error fault => exact .inl ⟨fault, fun w => rfl⟩
  | ok item =>
    refine .inr ⟨{ value := ()
                   store := fun s now => (s.upsert now item).2
                   events := fun s => if s.writes item then [.stored item.rowKey] else [] },
      fun s e he => ?_, fun w => ?_⟩
    · dsimp only at he
      split at he
      · rw [List.mem_singleton.mp he]
        rfl
      · cases he
    · have htrace : (if w.store.writes item then w.trace ++ [Event.stored item.rowKey]
            else w.trace) =
          w.trace ++ (if w.store.writes item then [Event.stored item.rowKey] else []) := by
        split
        · rfl
        · rw [List.append_nil]
      change (Except.ok (), { w with
        store := (w.store.upsert w.wallNow item).2
        trace := if w.store.writes item then w.trace ++ [Event.stored item.rowKey]
          else w.trace }) = _
      rw [htrace, Writing.run, List.append_nil]

/-- The pending broadcast of a task is written if it can be made. -/
theorem whole_enqueueBroadcast (r : Relayer σ) (httl : r.broadcasts.ttl.check = .ok ())
    (found : Except Fault (String × PendingBroadcast)) :
    (r.enqueueBroadcast found : Work σ τ Unit).Whole := by
  match found with
  | .error fault => exact .inl ⟨fault, fun w => rfl⟩
  | .ok (id, item) =>
    refine .inr ⟨{ value := ()
                   cache := fun c wall mono => c.set mono (r.broadcasts.keyOf id)
                     { item with timestamp := wall.toMillis }.toJson (some r.broadcasts.ttl) },
      by simp, fun w => ?_⟩
    have hput (w' : World σ τ) : (Work.ofExcept r.broadcasts.ttl.check : Work σ τ Unit) w' =
        (.ok (), w') := by
      rw [httl]
      rfl
    change (Work.ofExcept r.broadcasts.ttl.check : Work σ τ Unit) { w with
      cache := w.cache.set w.monoNow (r.broadcasts.keyOf id)
        { item with timestamp := w.wallNow.toMillis }.toJson (some r.broadcasts.ttl) } = _
    rw [hput, Writing.run]
    simp only [List.append_nil]

end Work

namespace Relayer

variable [Seconds τ]

/-- A task is refused as it stands or written as a whole. -/
theorem whole_taskHandler (r : Relayer σ) (httl : r.broadcasts.ttl.check = .ok ())
    (task : HubTask) (work : Work σ τ Unit) (h : r.taskHandler task = some work) :
    work.Whole := by
  unfold taskHandler at h
  split at h <;> cases h
  · exact Work.whole_enqueueItem _
  · exact Work.whole_enqueueItem _
  · exact Work.whole_enqueueItem _
  · exact Work.whole_enqueueBroadcast r httl _
  · exact Work.whole_enqueueBroadcast r httl _
  · exact Work.whole_enqueueBroadcast r httl _
  · exact Work.whole_enqueueBroadcast r httl _

theorem whole_processTask (r : Relayer σ) (httl : r.broadcasts.ttl.check = .ok ())
    (task : HubTask) : (r.processTask task : Work σ τ Bool).Whole := by
  rw [processTask]
  cases hhandler : (r.taskHandler task : Option (Work σ τ Unit)) with
  | none =>
    -- a line is written, and nothing else
    have hskip (line : LogLine) : (do
        Work.log line
        return false : Work σ τ Bool).Whole := by
      refine .inr ⟨{ value := false, lines := [line] }, by simp, fun w => ?_⟩
      rw [Writing.run, List.append_nil]
      rfl
    exact hskip _
  | some work =>
    rcases r.whole_taskHandler httl task work hhandler with ⟨fault, hfault⟩ | ⟨d, hevents, hd⟩
    · exact .inl ⟨fault, fun w => Work.bind_apply_of_error (hfault w)⟩
    · refine .inr ⟨{ d with value := true }, hevents, fun w => ?_⟩
      exact Work.bind_apply_of_ok (hd w)

/-- A task that cannot be processed. It fails in all worlds alike, and leaves them as they are. -/
def Refuses (τ : Type) [Seconds τ] (r : Relayer σ) (task : HubTask) (fault : Fault) : Prop :=
  ∀ w : World σ τ, r.processTask task w = (.error (.fault fault), w)

/-- A task that can be processed, in all worlds. -/
def Accepts (τ : Type) [Seconds τ] (r : Relayer σ) (task : HubTask) : Prop :=
  ∀ w : World σ τ, ∃ known, (r.processTask task w).1 = .ok known

/-- No task is of both kinds. -/
theorem Accepts.not_refuses {r : Relayer σ} {task : HubTask} {fault : Fault} (w : World σ τ)
    (h : r.Accepts τ task) : ¬ r.Refuses τ task fault := by
  intro hrefuses
  obtain ⟨known, hknown⟩ := h w
  rw [hrefuses w] at hknown
  cases hknown

/-- **Tasks are of two kinds.** A task is refused, or it is accepted and writes to the queues. -/
theorem refuses_or_accepts (τ : Type) [Seconds τ] (r : Relayer σ)
    (httl : r.broadcasts.ttl.check = .ok ()) (task : HubTask) :
    (∃ fault, r.Refuses τ task fault) ∨ (r.Accepts τ task ∧ ∃ d : Writing τ Bool,
      (∀ s, ∀ e ∈ d.events s, e.cursorSet? = none) ∧
        ∀ w : World σ τ, r.processTask task w = d.run w) := by
  have hwhole : (r.processTask task : Work σ τ Bool).Whole := r.whole_processTask httl task
  rcases hwhole with hrefuses | ⟨d, hevents, hd⟩
  · exact .inl hrefuses
  · exact .inr ⟨fun w => ⟨d.value, by rw [hd w]; rfl⟩, d, hevents, hd⟩

end Relayer

/-! ### Worlds with the same queues -/

namespace World

/-- The clocks: what they show by the state of the collaborators, and how they were set. -/
def clocks (w : World σ τ) : (σ → Instant → Instant) × Instant × (σ → τ → τ) × τ :=
  (w.wallShown, w.wall, w.monoShown, w.mono)

/-- What both clocks show when the collaborators are in a state. -/
def shows (w : World σ τ) (env : σ) : Instant × τ :=
  (w.wallShown env w.wall, w.monoShown env w.mono)

/-- Clocks that show the same while collaborators are asked. -/
def Steady (w : World σ τ) : Prop := ∀ env env', w.shows env = w.shows env'

/-- Two worlds with the same queues and the same clocks. -/
structure Alike (w w' : World σ τ) : Prop where
  store : w'.store = w.store
  cache : w'.cache = w.cache
  clocks : w'.clocks = w.clocks

variable {w w' w'' : World σ τ}

theorem shows_of_clocks (h : w'.clocks = w.clocks) (env : σ) : w'.shows env = w.shows env :=
  congrArg (fun c => (c.1 env c.2.1, c.2.2.1 env c.2.2.2)) h

namespace Alike

theorem refl (w : World σ τ) : w.Alike w := ⟨rfl, rfl, rfl⟩

theorem trans (h : w.Alike w') (h' : w'.Alike w'') : w.Alike w'' :=
  ⟨h'.store.trans h.store, h'.cache.trans h.cache, h'.clocks.trans h.clocks⟩

theorem symm (h : w.Alike w') : w'.Alike w := ⟨h.store.symm, h.cache.symm, h.clocks.symm⟩

/-- Work that only asks changes neither the queues nor the clocks. -/
theorem of_later {events : List Event} (h : w.Later w' events) : w.Alike w' := by
  obtain ⟨env, journal, rfl⟩ := h
  exact ⟨rfl, rfl, rfl⟩

/-- What is written depends on the queues and on what the clocks show. -/
theorem run (h : w.Alike w') (hshows : w'.shows w'.env = w.shows w.env) (d : Writing τ α) :
    (d.run w).2.Alike (d.run w').2 := by
  have hwall : w'.wallNow = w.wallNow := congrArg Prod.fst hshows
  have hmono : w'.monoNow = w.monoNow := congrArg Prod.snd hshows
  refine ⟨?_, ?_, h.clocks⟩
  · change d.store w'.store w'.wallNow = d.store w.store w.wallNow
    rw [h.store, hwall]
  · change d.cache w'.cache w'.wallNow w'.monoNow = d.cache w.cache w.wallNow w.monoNow
    rw [h.cache, hwall, hmono]

end Alike

end World

/-! ### Tasks applied -/

namespace Relayer

variable [Seconds τ] {r : Relayer σ}

/-- Tasks applied one after the other, each with the collaborators in a state of its own. -/
def applied (r : Relayer σ) (w : World σ τ) (steps : List (HubTask × σ)) : World σ τ :=
  steps.foldl (fun w step => (r.processTask step.1 { w with env := step.2 }).2) w

theorem applied_cons (w : World σ τ) (step : HubTask × σ) (steps : List (HubTask × σ)) :
    r.applied w (step :: steps) =
      r.applied (r.processTask step.1 { w with env := step.2 }).2 steps := rfl

theorem applied_append (w : World σ τ) (steps steps' : List (HubTask × σ)) :
    r.applied w (steps ++ steps') = r.applied (r.applied w steps) steps' := List.foldl_append

/-- No task sets a clock. -/
theorem clocks_processTask (httl : r.broadcasts.ttl.check = .ok ()) (task : HubTask)
    (w : World σ τ) : (r.processTask task w).2.clocks = w.clocks := by
  rcases r.refuses_or_accepts τ httl task with ⟨fault, hfault⟩ | ⟨-, d, -, hd⟩
  · rw [hfault w]
  · rw [hd w]
    rfl

/-- One task, in worlds with the same queues whose clocks show the same. -/
theorem processTask_alike (httl : r.broadcasts.ttl.check = .ok ()) {w w' : World σ τ}
    (h : w.Alike w') {env env' : σ} (hshows : w'.shows env' = w.shows env) (task : HubTask) :
    (r.processTask task { w with env := env }).2.Alike
      (r.processTask task { w' with env := env' }).2 := by
  have hwith : ({ w with env := env } : World σ τ).Alike { w' with env := env' } :=
    ⟨h.store, h.cache, h.clocks⟩
  rcases r.refuses_or_accepts τ httl task with ⟨fault, hfault⟩ | ⟨-, d, -, hd⟩
  · rw [hfault, hfault]
    exact hwith
  · rw [hd, hd]
    exact hwith.run hshows d

/-- What tasks write depends on the queues and on the clocks. -/
theorem applied_alike (httl : r.broadcasts.ttl.check = .ok ()) {w w' : World σ τ}
    (h : w.Alike w') (steps : List (HubTask × σ)) :
    (r.applied w steps).Alike (r.applied w' steps) := by
  induction steps generalizing w w' with
  | nil => exact h
  | cons step steps ih =>
    exact ih (processTask_alike httl h (World.shows_of_clocks h.clocks step.2) step.1)

/-- With steady clocks it does not matter when tasks are applied. -/
theorem applied_steady (httl : r.broadcasts.ttl.check = .ok ()) {w w' : World σ τ}
    (hsteady : w.Steady) (h : w.Alike w') {steps steps' : List (HubTask × σ)}
    (htasks : steps.map Prod.fst = steps'.map Prod.fst) :
    (r.applied w steps).Alike (r.applied w' steps') := by
  induction steps generalizing w w' steps' with
  | nil =>
    obtain rfl := List.map_eq_nil_iff.mp htasks.symm
    exact h
  | cons step steps ih =>
    obtain ⟨step', rest', rfl, htask, hrest⟩ := List.map_eq_cons_iff.mp htasks.symm
    have hshows : w'.shows step'.2 = w.shows step.2 :=
      (World.shows_of_clocks h.clocks step'.2).trans (hsteady _ _)
    have hnext : ((r.processTask step.1 { w with env := step.2 }).2).Steady := by
      intro env env'
      have hclocks := clocks_processTask httl step.1 { w with env := step.2 }
      rw [World.shows_of_clocks hclocks, World.shows_of_clocks hclocks]
      exact hsteady env env'
    rw [applied_cons, applied_cons, htask]
    exact ih hnext (processTask_alike httl h hshows step.1) hrest.symm

end Relayer

end ChainRelay
