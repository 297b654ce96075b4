import ChainRelay.Proofs.Worker.InFlight
import ChainRelay.Proofs.Worker.TaskEffects
import Mathlib.Data.List.Nodup
import Mathlib.Logic.Relation

/-!
# Runs over the tasks of a hub

A run reads tasks page by page and processes them one by one. Whatever ends it, it has processed the
tasks after the cursor up to some point: every one before that point, none after it, and the cursor
stands at the last of them. Pages may be cut anywhere, so where the point lies has nothing to do
with their size.

## The contract

The hub serves a list of tasks with distinct ids, or fails; the cursor is missing or names one of
them. The clocks may go on while the hub is asked, and pending broadcasts have a time to live that
a clock can show. The bound on the number of pages is larger than the number of unread tasks, and so
it is never met.

## Main definitions

* `TaskHub` — a hub that serves a list of tasks
* `TasksDone` — what becomes of a world in which tasks were processed
* `TaskStop` — why a run has stopped where it did
* `TaskRun` — what a run owes to the tasks that it has found

## Main results

* `Relayer.processTasks_run` — one page
* `Relayer.processTaskPages_step`, `Relayer.processTaskPages_run` — page after page
* `TaskRun.unique` — runs over pages of different sizes
* `Relayer.handleNewTasks_prefix` — the law of runs
-/

namespace ChainRelay

variable {σ τ : Type}

/-! ### Tasks after a cursor -/

/-- The tasks after a given one; there are none after a task that is unknown. -/
def unreadTasks (tasks : List HubTask) : Option String → List HubTask
  | none => tasks
  | some id => (tasks.dropWhile fun task => task.id != id).drop 1

/-- With distinct ids, the tasks after a task are those behind it. -/
theorem unreadTasks_of_split {read unread : List HubTask} {task : HubTask}
    (hdistinct : ((read ++ task :: unread).map HubTask.id).Nodup) :
    unreadTasks (read ++ task :: unread) (some task.id) = unread := by
  have hread : ∀ t ∈ read, (t.id != task.id) = true := by
    intro t ht
    rw [List.map_append, List.map_cons] at hdistinct
    have hne := (List.nodup_append.mp hdistinct).2.2 t.id (List.mem_map_of_mem ht) task.id
      List.mem_cons_self
    simpa using hne
  rw [unreadTasks, List.dropWhile_append_of_pos hread, List.dropWhile_cons_of_neg (by simp)]
  rfl

theorem unreadTasks_subset (tasks : List HubTask) (before : Option String) :
    unreadTasks tasks before ⊆ tasks := by
  cases before with
  | none => exact List.Subset.refl _
  | some id => exact List.Subset.trans (List.drop_subset _ _) (List.dropWhile_sublist _).subset

/-- Where a cursor stands after tasks that were processed. -/
def lastTask (done : List HubTask) (before : Option String) : Option String :=
  (done.getLast?.map HubTask.id).or before

theorem lastTask_append (done done' : List HubTask) (before : Option String) :
    lastTask (done ++ done') before = lastTask done' (lastTask done before) := by
  rw [lastTask, lastTask, lastTask, List.getLast?_append]
  cases done'.getLast? <;> rfl

/-- The cursor still names a task then. -/
theorem mem_of_lastTask {tasks done : List HubTask} {before : Option String}
    (hbefore : ∀ id, before = some id → id ∈ tasks.map HubTask.id)
    (hdone : done ⊆ tasks) {id : String} (hid : lastTask done before = some id) :
    id ∈ tasks.map HubTask.id := by
  rw [lastTask, Option.or_eq_some_iff, Option.map_eq_some_iff] at hid
  rcases hid with ⟨task, htask, rfl⟩ | ⟨-, hid⟩
  · exact List.mem_map_of_mem (hdone (List.mem_of_getLast? htask))
  · exact hbefore id hid

/-- The tasks after some that were processed are those that were not. -/
theorem unreadTasks_lastTask {tasks done rest : List HubTask} {before : Option String}
    (hdistinct : (tasks.map HubTask.id).Nodup)
    (hbefore : ∀ id, before = some id → id ∈ tasks.map HubTask.id)
    (hunread : unreadTasks tasks before = done ++ rest) :
    unreadTasks tasks (lastTask done before) = rest := by
  obtain ⟨read, rfl⟩ : ∃ read, tasks = read ++ (done ++ rest) := by
    rw [← hunread]
    cases before with
    | none => exact ⟨[], rfl⟩
    | some id =>
      obtain ⟨task, htask, rfl⟩ := List.mem_map.mp (hbefore id rfl)
      obtain ⟨read, unread, rfl⟩ := List.append_of_mem htask
      rw [unreadTasks_of_split hdistinct]
      exact ⟨read ++ [task], by simp⟩
  rcases List.eq_nil_or_concat done with rfl | ⟨done, task, rfl⟩
  · exact hunread
  · have hsplit : read ++ (done.concat task ++ rest) = (read ++ done) ++ task :: rest := by simp
    have hlast : lastTask (done.concat task) before = some task.id := by simp [lastTask]
    rw [hsplit] at hdistinct ⊢
    rw [hlast, unreadTasks_of_split hdistinct]

/-- The hub serves a list of tasks. -/
structure TaskHub (r : Relayer σ) (tasks : List HubTask) : Prop where
  /-- A page holds the next tasks after the given one, if there is an answer. -/
  serves : ∀ (s : σ) (after : Option String) (size : ℕ),
    (∃ fault, (r.collaborators.hub.tasks r.settings.sourceChain after size s).1 = .error fault) ∨
      (r.collaborators.hub.tasks r.settings.sourceChain after size s).1 =
        .ok ((unreadTasks tasks after).take size)
  /-- No two tasks have the same id. -/
  distinct : (tasks.map HubTask.id).Nodup

/-! ### What becomes of a world -/

/-- The cursor of the tasks. -/
def World.taskCursor? (w : World σ τ) : Option String := w.cursors.lookup Relayer.taskCursor

/-- What was recorded between two worlds. -/
def World.since (w w' : World σ τ) : List Event := w'.trace.drop w.trace.length

/-- A page that the hub served, or anything else. -/
def Event.isServed : Event → Bool
  | tasksRead _ _ (.error _) => false
  | _ => true

namespace Relayer

/-- States of the collaborators that asking for tasks leads to. -/
def Asked (r : Relayer σ) (size : ℕ) : σ → σ → Prop :=
  Relation.ReflTransGen fun s s' => ∃ after : Option String,
    s' = (r.collaborators.hub.tasks r.settings.sourceChain after size s).2

end Relayer

/-- What becomes of a world in which tasks were processed. All the while, up to a state `s` of the
collaborators, they were only asked for tasks. -/
structure TasksDone [Seconds τ] (r : Relayer σ) (size : ℕ) (w : World σ τ) (done : List HubTask)
    (s : σ) (w' : World σ τ) : Prop where
  /-- The queues are what the tasks make of them when they are applied in order, each at a time
  at which the relayer was asking for tasks. -/
  queues : ∃ steps : List (HubTask × σ), steps.map Prod.fst = done ∧
    (w.env :: (steps.map Prod.snd ++ [s])).Pairwise (r.Asked size) ∧
    (r.applied w steps).Alike w'
  /-- The cursor was set after each of them. -/
  cursors : w'.cursors = done.foldl
    (fun cursors task => Work.putCursor cursors Relayer.taskCursor task.id) w.cursors
  /-- No other cursor was set. -/
  record : ∃ events, w'.trace = w.trace ++ events ∧
    events.filterMap Event.cursorSet? = done.map fun task => (Relayer.taskCursor, task.id)

namespace TasksDone

variable [Seconds τ] {r : Relayer σ} {size : ℕ} {w w' w'' : World σ τ}
  {done done' : List HubTask} {s : σ} {events : List Event}

theorem refl (w : World σ τ) : TasksDone r size w [] w.env w where
  queues := by
    have hrefl : r.Asked size w.env w.env := Relation.ReflTransGen.refl
    exact ⟨[], rfl, by simpa using hrefl, World.Alike.refl w⟩
  cursors := rfl
  record := ⟨[], (List.append_nil _).symm, rfl⟩

theorem asked (h : TasksDone r size w done s w') : r.Asked size w.env s := by
  obtain ⟨steps, -, hasked, -⟩ := h.queues
  exact (List.pairwise_cons.mp hasked).1 _ (by simp)

/-- What is asked afterwards makes no difference. -/
theorem later (h : TasksDone r size w done s w') (hlater : w'.Later w'' events)
    (hquiet : events.filterMap Event.cursorSet? = []) : TasksDone r size w done s w'' where
  queues := by
    obtain ⟨steps, htasks, hasked, halike⟩ := h.queues
    exact ⟨steps, htasks, hasked, halike.trans (World.Alike.of_later hlater)⟩
  cursors := by
    obtain ⟨env, journal, rfl⟩ := hlater
    exact h.cursors
  record := by
    obtain ⟨before, htrace, hbefore⟩ := h.record
    refine ⟨before ++ events, by rw [hlater.trace_eq, htrace, List.append_assoc], ?_⟩
    rw [List.filterMap_append, hbefore, hquiet, List.append_nil]

/-- Asking for more tasks is part of the run. -/
theorem ask (h : TasksDone r size w done s w') {s' : σ} (hasked : r.Asked size s s') :
    TasksDone r size w done s' w' where
  queues := by
    obtain ⟨steps, htasks, hsteps, halike⟩ := h.queues
    refine ⟨steps, htasks, ?_, halike⟩
    rw [← List.cons_append, List.pairwise_append] at hsteps ⊢
    obtain ⟨hfirst, -, hreach⟩ := hsteps
    refine ⟨hfirst, List.pairwise_singleton _ _, fun t ht t' ht' => ?_⟩
    rw [List.mem_singleton.mp ht']
    exact (hreach t ht s List.mem_cons_self).trans hasked
  cursors := h.cursors
  record := h.record

/-- A line that is written makes no difference either. -/
theorem log (h : TasksDone r size w done w'.env w') (line : LogLine) :
    ∃ w'', (Work.log line : Work σ τ Unit) w' = (.ok (), w'') ∧
      TasksDone r size w done w''.env w'' := by
  have hlater : w'.Later { w' with journal := w'.journal ++ [line] } [] :=
    ⟨w'.env, _, by rw [List.append_nil]⟩
  exact ⟨_, rfl, h.later hlater rfl⟩

/-- Tasks that are processed one after the other. -/
theorem trans (httl : r.broadcasts.ttl.check = .ok ()) (h : TasksDone r size w done w'.env w')
    (h' : TasksDone r size w' done' s w'') : TasksDone r size w (done ++ done') s w'' where
  queues := by
    obtain ⟨steps, rfl, hasked, halike⟩ := h.queues
    obtain ⟨steps', rfl, hasked', halike'⟩ := h'.queues
    refine ⟨steps ++ steps', List.map_append, ?_, ?_⟩
    · rw [← List.cons_append, List.pairwise_append] at hasked
      obtain ⟨hfirst, -, hreach⟩ := hasked
      rw [List.map_append, List.append_assoc, ← List.cons_append, List.pairwise_append]
      refine ⟨hfirst, (List.pairwise_cons.mp hasked').2, fun t ht t' ht' => ?_⟩
      exact (hreach t ht _ List.mem_cons_self).trans ((List.pairwise_cons.mp hasked').1 t' ht')
    · rw [Relayer.applied_append]
      exact (Relayer.applied_alike httl halike.symm steps').symm.trans halike'
  cursors := by rw [h'.cursors, h.cursors, List.foldl_append]
  record := by
    obtain ⟨events, htrace, hevents⟩ := h.record
    obtain ⟨events', htrace', hevents'⟩ := h'.record
    refine ⟨events ++ events', by rw [htrace', htrace, List.append_assoc], ?_⟩
    rw [List.filterMap_append, hevents, hevents', List.map_append]

/-- A task that is processed, and after which the cursor is set. -/
theorem single {task : HubTask} {d : Writing τ Bool}
    (hquiet : ∀ s, ∀ e ∈ d.events s, e.cursorSet? = none)
    (hrun : ∀ w : World σ τ, r.processTask task w = d.run w)
    (hw' : Work.setCursor Relayer.taskCursor task.id (d.run w).2 = (.ok (), w')) :
    TasksDone r size w [task] w'.env w' := by
  rw [Work.setCursor_apply] at hw'
  obtain rfl := (Prod.mk.inj hw').2
  refine ⟨⟨[(task, w.env)], rfl, ?_, ?_⟩, rfl, ?_⟩
  · have hrefl : r.Asked size w.env w.env := Relation.ReflTransGen.refl
    simpa [Writing.run] using hrefl
  · change ((r.processTask task w).2).Alike _
    rw [hrun w]
    exact ⟨rfl, rfl, rfl⟩
  · refine ⟨d.events w.store ++ [.cursorSet Relayer.taskCursor task.id], ?_, ?_⟩
    · exact List.append_assoc _ _ _
    · rw [List.filterMap_append, List.filterMap_eq_nil_iff.mpr (hquiet w.store)]
      rfl

/-- The cursor names the last of them. -/
theorem cursor (h : TasksDone r size w done s w') :
    w'.taskCursor? = lastTask done w.taskCursor? := by
  rw [World.taskCursor?, World.taskCursor?, h.cursors]
  clear h
  induction done using List.reverseRecOn with
  | nil => rfl
  | append_singleton done task _ =>
    rw [List.foldl_append, lastTask, List.getLast?_concat]
    exact (Work.lookup_putCursor _ _ _ _).trans (if_pos rfl)

end TasksDone

/-! ### One page -/

/-- How the tasks of a page are processed: all of them, or up to one that is refused. -/
inductive PageRun [Seconds τ] (r : Relayer σ) (size : ℕ) (page : List HubTask) (w : World σ τ) :
    Except Halt (Nat × Bool) × World σ τ → Prop
  | all {w' : World σ τ} (accepted : ∀ task ∈ page, r.Accepts τ task)
      (h : TasksDone r size w page w'.env w') : PageRun r size page w (.ok (page.length, true), w')
  | refused {done rest : List HubTask} {task : HubTask} {fault : Fault} {s : σ} {w' : World σ τ}
      (split : page = done ++ task :: rest) (accepted : ∀ task ∈ done, r.Accepts τ task)
      (refuses : r.Refuses τ task fault) (h : TasksDone r size w done s w') :
      PageRun r size page w
        (if fault.isDomain then .ok (done.length, false) else .error (.fault fault), w')

namespace Relayer

variable [Seconds τ]

/-- **One page.** Tasks are processed in order up to the first one that is refused. -/
theorem processTasks_run (r : Relayer σ) (httl : r.broadcasts.ttl.check = .ok ()) (size : ℕ)
    (page : List HubTask) (w : World σ τ) : PageRun r size page w (r.processTasks page w) := by
  induction page generalizing w with
  | nil => exact .all (by simp) (TasksDone.refl w)
  | cons task rest ih =>
    rcases r.refuses_or_accepts τ httl task with ⟨fault, hfault⟩ | ⟨haccepts, d, hquiet, hd⟩
    · have hkept : Work.attempt (r.processTask task) w = (.ok (.error fault), w) := by
        rw [Work.attempt, hfault w]
      -- nothing is done, but for a report if the fault is one of the domain
      have hend {w' : World σ τ} {report : List Event} (later : w.Later w' report)
          (quiet : report.filterMap Event.cursorSet? = []) : PageRun r size (task :: rest) w
            (if fault.isDomain then .ok ([].length, false) else .error (.fault fault), w') :=
        .refused rfl (by simp) hfault ((TasksDone.refl w).later later quiet)
      rw [processTasks, Work.bind_apply_of_ok hkept]
      dsimp only
      cases hdomain : fault.isDomain with
      | true =>
        rw [hdomain] at hend
        rw [if_pos rfl]
        obtain ⟨w', answer, hreport, later⟩ := r.report_apply _ _ _ _ (0, false) w
        rw [hreport]
        exact hend later rfl
      | false =>
        rw [hdomain] at hend
        exact hend (World.Later.refl w) rfl
    · have hkept : Work.attempt (r.processTask task) w = (.ok (.ok d.value), (d.run w).2) := by
        rw [Work.attempt, hd w]
        rfl
      obtain ⟨w₁, hset⟩ : ∃ w₁, Work.setCursor taskCursor task.id (d.run w).2 = (.ok (), w₁) :=
        ⟨_, rfl⟩
      have hfirst : TasksDone r size w [task] w₁.env w₁ := TasksDone.single hquiet hd hset
      rw [processTasks, Work.bind_apply_of_ok hkept]
      dsimp only
      rw [Work.bind_apply_of_ok hset, Work.bind_apply]
      -- the rest of the page counts one task less
      have hrest := ih w₁
      generalize r.processTasks rest w₁ = run at hrest ⊢
      cases hrest with
      | all accepted h =>
        exact .all (List.forall_mem_cons.mpr ⟨haccepts, accepted⟩) (hfirst.trans httl h)
      | @refused done _ _ fault _ w' split accepted refuses h =>
        have hend := PageRun.refused (congrArg (task :: ·) split)
          (List.forall_mem_cons.mpr ⟨haccepts, accepted⟩) refuses (hfirst.trans httl h)
        cases hdomain : fault.isDomain <;> rw [hdomain] at hend <;> exact hend

end Relayer

/-! ### Page after page -/

/-- Why a run that has processed some tasks has not processed the rest of them, and how it ends. -/
inductive TaskStop (τ : Type) [Seconds τ] (r : Relayer σ) (size : ℕ) (events : List Event)
    (cursor : Option String) (done : List HubTask) : List HubTask → Except Halt ℕ → Prop
  /-- There are no more. -/
  | drained : TaskStop τ r size events cursor done [] (.ok done.length)
  /-- The next one cannot be processed. -/
  | refused {task : HubTask} {rest : List HubTask} {fault : Fault}
      (refuses : r.Refuses τ task fault) :
      TaskStop τ r size events cursor done (task :: rest)
        (if fault.isDomain then .ok done.length else .error (.fault fault))
  /-- The hub did not serve the page after the last one of them, which was the last of a page. -/
  | unserved {rest : List HubTask} {fault : Fault}
      (recorded : Event.tasksRead cursor size (.error fault) ∈ events)
      (boundary : size ∣ done.length ∨ rest = []) :
      TaskStop τ r size events cursor done rest
        (if fault.isDependency then .ok done.length else .error (.fault fault))

/-- What a run owes to the tasks that it has found: it has processed `done` in order, and it had to
stop there. -/
structure TaskRun [Seconds τ] (r : Relayer σ) (tasks : List HubTask) (size : ℕ) (w : World σ τ)
    (done : List HubTask) (run : Except Halt ℕ × World σ τ) : Prop where
  accepted : ∀ task ∈ done, r.Accepts τ task
  /-- They are the unread tasks up to the point where the run stopped. -/
  stop : ∃ rest, unreadTasks tasks w.taskCursor? = done ++ rest ∧
    TaskStop τ r size (w.since run.2) (lastTask done w.taskCursor?) done rest run.1
  effects : ∃ s, TasksDone r size w done s run.2
  /-- The cursor names the last of them. -/
  cursor : run.2.taskCursor? = lastTask done w.taskCursor?

namespace TasksDone

variable [Seconds τ] {r : Relayer σ} {tasks done : List HubTask} {size : ℕ} {w w' : World σ τ}
  {s : σ} {run : Except Halt ℕ × World σ τ}

/-- A run that ends after tasks that were processed. -/
theorem taskRun (h : TasksDone r size w done s w') {rest : List HubTask}
    (hunread : unreadTasks tasks w.taskCursor? = done ++ rest)
    (haccepted : ∀ task ∈ done, r.Accepts τ task) {result : Except Halt ℕ}
    (hstop : TaskStop τ r size (w.since w') (lastTask done w.taskCursor?) done rest result) :
    TaskRun r tasks size w done (result, w') :=
  ⟨haccepted, ⟨rest, hunread, hstop⟩, ⟨s, h⟩, h.cursor⟩

/-- A run that goes on after a page was processed. -/
theorem taskRun_page (httl : r.broadcasts.ttl.check = .ok ()) {page rest : List HubTask}
    (h : TasksDone r size w page w'.env w')
    (hunread : unreadTasks tasks w.taskCursor? = page ++ rest)
    (hrest : unreadTasks tasks w'.taskCursor? = rest)
    (hfull : page.length = size ∨ rest = [])
    (haccepted : ∀ task ∈ page, r.Accepts τ task) (hrun : TaskRun r tasks size w' done run) :
    TaskRun r tasks size w (page ++ done) (run.1.map (page.length + ·), run.2) := by
  obtain ⟨left, hleft, hstop⟩ := hrun.stop
  obtain ⟨s, heffects⟩ := hrun.effects
  rw [hrest] at hleft
  have hunread' : unreadTasks tasks w.taskCursor? = (page ++ done) ++ left := by
    rw [hunread, hleft, List.append_assoc]
  refine (h.trans httl heffects).taskRun hunread' ?_ ?_
  · exact List.forall_mem_append.mpr ⟨haccepted, hrun.accepted⟩
  · have hsince : w'.since run.2 ⊆ w.since run.2 := by
      obtain ⟨events, htrace, -⟩ := h.record
      refine (List.drop_suffix_drop_left run.2.trace ?_).subset
      rw [htrace, List.length_append]
      exact Nat.le_add_right _ _
    rw [lastTask_append, ← h.cursor]
    generalize w.since run.2 = events at hsince ⊢
    generalize run.1 = result at hstop ⊢
    cases hstop with
    | drained =>
      rw [Except.map, ← List.length_append]
      exact .drained
    | @refused task rest fault refuses =>
      have hend : TaskStop τ r size events (lastTask done w'.taskCursor?) (page ++ done)
          (task :: rest)
          (if fault.isDomain then .ok (page ++ done).length else .error (.fault fault)) :=
        .refused refuses
      rw [List.length_append] at hend
      cases hdomain : fault.isDomain <;> rw [hdomain] at hend <;> exact hend
    | @unserved _ fault recorded boundary =>
      have hboundary : size ∣ (page ++ done).length ∨ left = [] := by
        rcases hfull with rfl | rfl
        · rw [List.length_append]
          exact boundary.imp (Nat.dvd_add (Nat.dvd_refl _)) id
        · exact .inr (List.append_eq_nil_iff.mp hleft.symm).2
      have hend : TaskStop τ r size events (lastTask done w'.taskCursor?) (page ++ done) left
          (if fault.isDependency then .ok (page ++ done).length else .error (.fault fault)) :=
        .unserved (hsince recorded) hboundary
      rw [List.length_append] at hend
      cases hdependency : fault.isDependency <;> rw [hdependency] at hend <;> exact hend

end TasksDone

namespace Relayer

variable [Seconds τ] {r : Relayer σ} {tasks : List HubTask} {size : ℕ}

/-- A page is asked for. -/
theorem askTasks_apply (r : Relayer σ) (size : ℕ) (after : Option String) (w : World σ τ) :
    ∃ w', Work.attempt (Work.ask (r.collaborators.hub.tasks r.settings.sourceChain after size)
        (.tasksRead after size)) w =
      (.ok (r.collaborators.hub.tasks r.settings.sourceChain after size w.env).1, w') ∧
      w'.trace = w.trace ++ [.tasksRead after size
        (r.collaborators.hub.tasks r.settings.sourceChain after size w.env).1] ∧
      TasksDone r size w [] w'.env w' := by
  have hstep : r.Asked size w.env
      (r.collaborators.hub.tasks r.settings.sourceChain after size w.env).2 :=
    Relation.ReflTransGen.single ⟨after, rfl⟩
  cases hanswer : r.collaborators.hub.tasks r.settings.sourceChain after size w.env with
  | mk answer env =>
    rw [hanswer] at hstep
    refine ⟨{ w with env, trace := w.trace ++ [.tasksRead after size answer] }, ?_, rfl,
      ((TasksDone.refl w).ask hstep).later ⟨env, w.journal, rfl⟩ rfl⟩
    rw [Work.attempt, Work.ask, Work.query, hanswer]
    cases answer <;> rfl

/-- A page that the hub does not serve. -/
theorem taskRun_of_fault {w : World σ τ} {fault : Fault}
    (hanswer : (r.collaborators.hub.tasks r.settings.sourceChain w.taskCursor? size w.env).1 =
      .error fault) (pages : ℕ) :
    TaskRun r tasks size w [] (r.processTaskPages size (pages + 1) w.taskCursor? w) := by
  obtain ⟨w₁, hask, htrace, hasked⟩ := r.askTasks_apply size w.taskCursor? w
  rw [hanswer] at hask htrace
  -- a report may follow, and nothing else
  have hend {w' : World σ τ} {report : List Event} (later : w₁.Later w' report)
      (quiet : report.filterMap Event.cursorSet? = []) : TaskRun r tasks size w []
        (if fault.isDependency then .ok 0 else .error (.fault fault), w') := by
    have hrecorded : Event.tasksRead w.taskCursor? size (.error fault) ∈ w.since w' := by
      rw [World.since, later.trace_eq, htrace, List.append_assoc, List.drop_left]
      exact List.mem_cons_self
    exact (hasked.later later quiet).taskRun rfl (by simp)
      (.unserved hrecorded (.inl (Nat.dvd_zero _)))
  rw [processTaskPages, Work.bind_apply_of_ok hask]
  dsimp only
  cases hdependency : fault.isDependency with
  | true =>
    rw [hdependency] at hend
    rw [if_pos rfl]
    obtain ⟨w₂, answer, hreport, later⟩ := r.report_apply _ _ _ _ 0 w₁
    rw [hreport]
    exact hend later rfl
  | false =>
    rw [hdependency] at hend
    exact hend (World.Later.refl w₁) rfl

/-- **A page that the hub serves.** The run ends there, or all tasks of the page are processed and
the run goes on with the next one. -/
theorem processTaskPages_step (r : Relayer σ) (httl : r.broadcasts.ttl.check = .ok ())
    (hsize : 0 < size) {w : World σ τ}
    (hanswer : (r.collaborators.hub.tasks r.settings.sourceChain w.taskCursor? size w.env).1 =
      .ok ((unreadTasks tasks w.taskCursor?).take size)) (pages : ℕ) :
    (∃ done, TaskRun r tasks size w done
      (r.processTaskPages size (pages + 1) w.taskCursor? w)) ∨
    ∃ page w', (unreadTasks tasks w.taskCursor?).take size = page ∧ page ≠ [] ∧
      (∀ task ∈ page, r.Accepts τ task) ∧ TasksDone r size w page w'.env w' ∧
      r.processTaskPages size (pages + 1) w.taskCursor? w =
        ((r.processTaskPages size pages w'.taskCursor? w').1.map (page.length + ·),
          (r.processTaskPages size pages w'.taskCursor? w').2) := by
  obtain ⟨w₁, hask, -, hasked⟩ := r.askTasks_apply size w.taskCursor? w
  rw [hanswer] at hask
  obtain ⟨page, hpage⟩ : ∃ page, (unreadTasks tasks w.taskCursor?).take size = page := ⟨_, rfl⟩
  have hunread := (List.take_append_drop size (unreadTasks tasks w.taskCursor?)).symm
  rw [processTaskPages, Work.bind_apply_of_ok hask]
  rw [hpage] at hunread ⊢
  dsimp only
  cases hnewest : page.getLast? with
  | none =>
    -- there are no more tasks
    obtain rfl := List.getLast?_eq_none_iff.mp hnewest
    have hnil : unreadTasks tasks w.taskCursor? = [] :=
      (List.take_eq_nil_iff.mp hpage).resolve_left (Nat.ne_of_gt hsize)
    exact .inl ⟨[], hasked.taskRun hnil (by simp) .drained⟩
  | some newest =>
    dsimp only
    rw [Work.bind_apply]
    have hrun := r.processTasks_run httl size page w₁
    generalize r.processTasks page w₁ = run at hrun ⊢
    cases hrun with
    | @refused done rest task fault s w₂ split accepted refuses h =>
      have hstop : TaskStop τ r size (w.since w₂) (lastTask done w.taskCursor?) done
          (task :: (rest ++ (unreadTasks tasks w.taskCursor?).drop size))
          (if fault.isDomain then .ok done.length else .error (.fault fault)) :=
        .refused refuses
      rw [split, List.append_assoc] at hunread
      have hend := (hasked.trans httl h).taskRun hunread accepted hstop
      refine .inl ⟨done, ?_⟩
      cases hdomain : fault.isDomain <;> rw [hdomain] at hend <;> exact hend
    | @all w₂ accepted h =>
      obtain ⟨w₃, hlog, hdone⟩ := (hasked.trans httl h).log {
        level := .info, logger := taskLogger
        message := "processed " ++ toString page.length ++ " tasks, last task id " ++ newest.id }
      have hcursor : w₃.taskCursor? = some newest.id := by
        rw [hdone.cursor, List.nil_append, lastTask, hnewest]
        rfl
      refine .inr ⟨page, w₃, rfl, ?_, accepted, hdone, ?_⟩
      · rintro rfl
        cases hnewest
      · dsimp only
        rw [if_pos rfl, Work.bind_apply_of_ok hlog, Work.bind_apply, hcursor]
        generalize r.processTaskPages size pages (some newest.id) w₃ = run
        obtain ⟨result, w₄⟩ := run
        cases result <;> rfl

/-- **Page after page.** Each page is the next part of the list, so tasks are processed in order
until one is refused or a page is not served, whatever the size of the pages. -/
theorem processTaskPages_run (hub : TaskHub r tasks) (httl : r.broadcasts.ttl.check = .ok ())
    (hsize : 0 < size) (pages : ℕ) (w : World σ τ)
    (hcursor : ∀ id, w.taskCursor? = some id → id ∈ tasks.map HubTask.id)
    (hpages : (unreadTasks tasks w.taskCursor?).length < pages) :
    ∃ done, TaskRun r tasks size w done (r.processTaskPages size pages w.taskCursor? w) := by
  induction pages generalizing w with
  | zero => exact absurd hpages (Nat.not_lt_zero _)
  | succ pages ih =>
    rcases hub.serves w.env w.taskCursor? size with ⟨fault, hanswer⟩ | hanswer
    · exact ⟨[], taskRun_of_fault hanswer pages⟩
    rcases r.processTaskPages_step httl hsize hanswer pages with
      hend | ⟨page, w', hpage, hnonempty, haccepted, hdone, hnext⟩
    · exact hend
    have hunread := (List.take_append_drop size (unreadTasks tasks w.taskCursor?)).symm
    rw [hpage] at hunread
    have hrest : unreadTasks tasks w'.taskCursor? =
        (unreadTasks tasks w.taskCursor?).drop size := by
      rw [hdone.cursor]
      exact unreadTasks_lastTask hub.distinct hcursor hunread
    have hfull : page.length = size ∨ (unreadTasks tasks w.taskCursor?).drop size = [] := by
      rw [← hpage, List.length_take, List.drop_eq_nil_iff]
      omega
    have hcursor' : ∀ id, w'.taskCursor? = some id → id ∈ tasks.map HubTask.id := by
      intro id hid
      rw [hdone.cursor] at hid
      refine mem_of_lastTask hcursor ?_ hid
      rw [← hpage]
      exact List.Subset.trans (List.take_subset _ _) (unreadTasks_subset tasks _)
    have hpages' : (unreadTasks tasks w'.taskCursor?).length < pages := by
      have hpositive := List.length_pos_iff.mpr hnonempty
      rw [← hpage, List.length_take] at hpositive
      rw [hrest, List.length_drop]
      omega
    obtain ⟨done, hrun⟩ := ih w' hcursor' hpages'
    exact ⟨page ++ done,
      hnext ▸ hdone.taskRun_page httl hunread hrest hfull haccepted hrun⟩

end Relayer

/-! ### Pages of different sizes -/

namespace TaskStop

variable [Seconds τ] {r : Relayer σ} {size size' : ℕ} {events events' : List Event}
  {cursor cursor' : Option String} {done done' rest rest' : List HubTask}
  {result result' : Except Halt ℕ}

/-- A run whose pages were all served has processed every task that it could. -/
theorem prefix_of_accepted (w : World σ τ) (h : TaskStop τ r size events cursor done rest result)
    (hserved : ∀ e ∈ events, e.isServed = true) (hsplit : done ++ rest = done' ++ rest')
    (haccepted : ∀ task ∈ done', r.Accepts τ task) : done' <+: done := by
  rcases List.append_eq_append_iff.mp hsplit with ⟨more, rfl, hmore⟩ | ⟨more, rfl, -⟩
  · cases more with
    | nil => simp
    | cons task more =>
      cases h with
      | drained => cases hmore
      | refused refuses =>
        obtain ⟨rfl, -⟩ := List.cons_eq_cons.mp hmore
        exact absurd refuses ((haccepted _ (by simp)).not_refuses w)
      | unserved recorded _ => cases hserved _ recorded
  · exact List.prefix_append _ _

/-- How it ends depends on what is left. -/
theorem result_eq (w : World σ τ) (h : TaskStop τ r size events cursor done rest result)
    (h' : TaskStop τ r size' events' cursor' done rest result')
    (hserved : ∀ e ∈ events, e.isServed = true) (hserved' : ∀ e ∈ events', e.isServed = true) :
    result = result' := by
  cases h with
  | drained =>
    cases h' with
    | drained => rfl
    | unserved recorded' _ => cases hserved' _ recorded'
  | refused refuses =>
    cases h' with
    | refused refuses' =>
      cases (refuses w).symm.trans (refuses' w)
      rfl
    | unserved recorded' _ => cases hserved' _ recorded'
  | unserved recorded _ => cases hserved _ recorded

end TaskStop

namespace TaskRun

variable [Seconds τ] {r : Relayer σ} {tasks done done' : List HubTask} {size size' : ℕ}
  {w : World σ τ} {run run' : Except Halt ℕ × World σ τ}

/-- Runs whose pages were all served process the same tasks and end alike. -/
theorem unique (h : TaskRun r tasks size w done run) (h' : TaskRun r tasks size' w done' run')
    (hserved : ∀ e ∈ w.since run.2, e.isServed = true)
    (hserved' : ∀ e ∈ w.since run'.2, e.isServed = true) : done' = done ∧ run'.1 = run.1 := by
  obtain ⟨rest, hunread, hstop⟩ := h.stop
  obtain ⟨rest', hunread', hstop'⟩ := h'.stop
  have hsplit := hunread.symm.trans hunread'
  have hle := hstop.prefix_of_accepted w hserved hsplit h'.accepted
  have hge := hstop'.prefix_of_accepted w hserved' hsplit.symm h.accepted
  obtain rfl := hle.eq_of_length (Nat.le_antisymm hle.length_le hge.length_le)
  obtain rfl := List.append_cancel_left hsplit
  exact ⟨rfl, hstop'.result_eq w hstop hserved' hserved⟩

/-- With steady clocks the queues are what the tasks make of them at any time. -/
theorem queues_of_steady (httl : r.broadcasts.ttl.check = .ok ())
    (h : TaskRun r tasks size w done run) (hsteady : w.Steady) :
    (r.applied w (done.map fun task => (task, w.env))).Alike run.2 := by
  obtain ⟨s, heffects⟩ := h.effects
  obtain ⟨steps, htasks, -, halike⟩ := heffects.queues
  refine (Relayer.applied_steady httl hsteady (World.Alike.refl w) ?_).trans halike
  rw [htasks, List.map_map]
  exact List.map_id done

end TaskRun

namespace Relayer

variable [Seconds τ] {r : Relayer σ} {tasks : List HubTask}

/-- **A run processes a prefix.** Whatever the size of its pages, a run processes the tasks after
the cursor, in order and one by one, up to the first one that is refused or up to a page that is
not served. If all pages are served, then the tasks that are processed, the result and, with steady
clocks, the queues are the same for pages of every size. -/
theorem handleNewTasks_prefix (hub : TaskHub r tasks)
    (httl : r.broadcasts.ttl.check = .ok ()) (w : World σ τ)
    (hcursor : ∀ id, w.taskCursor? = some id → id ∈ tasks.map HubTask.id)
    (hlimit : (unreadTasks tasks w.taskCursor?).length < r.pageLimit) :
    (∀ size : ℕ, 0 < size → ∃ done, TaskRun r tasks size w done (r.handleNewTasks size w)) ∧
    ∃ done result, ∀ size : ℕ, 0 < size →
      (∀ e ∈ w.since (r.handleNewTasks size w).2, e.isServed = true) →
      TaskRun r tasks size w done (r.handleNewTasks size w) ∧
        (r.handleNewTasks size w).1 = result ∧
        (w.Steady → (r.applied w (done.map fun task => (task, w.env))).Alike
          (r.handleNewTasks size w).2) := by
  have hrun (size : ℕ) (hsize : 0 < size) :
      ∃ done, TaskRun r tasks size w done (r.handleNewTasks size w) :=
    processTaskPages_run hub httl hsize r.pageLimit w hcursor hlimit
  refine ⟨hrun, ?_⟩
  by_cases hserved : ∃ size : ℕ, 0 < size ∧
      ∀ e ∈ w.since (r.handleNewTasks size w).2, e.isServed = true
  · obtain ⟨size, hsize, hserved⟩ := hserved
    obtain ⟨done, h⟩ := hrun size hsize
    refine ⟨done, (r.handleNewTasks size w).1, fun size' hsize' hserved' => ?_⟩
    obtain ⟨done', h'⟩ := hrun size' hsize'
    obtain ⟨rfl, hresult⟩ := h.unique h' hserved hserved'
    exact ⟨h', hresult, h'.queues_of_steady httl⟩
  · -- no run was served all its pages
    exact ⟨[], .ok 0, fun size hsize hserved' => absurd ⟨size, hsize, hserved'⟩ hserved⟩

/-- Four tasks: one whose type is unknown, two that can be processed, and one that lacks the data
for its work item. -/
def mixedTasks : List HubTask :=
  [⟨"task-1", "UNKNOWN", .obj []⟩,
    ⟨"task-2", "GATEWAY_TX", .obj [("executeData", .str "0x01")]⟩,
    ⟨"task-3", "GATEWAY_TX", .obj [("executeData", .str "0x02")]⟩,
    ⟨"task-4", "GATEWAY_TX", .obj []⟩]

/-- A relayer whose hub serves these tasks. -/
def mixedRelayer : Relayer Simulation where
  collaborators :=
    let plain := Simulation.collaborators
    { plain with
      hub := { plain.hub with
        tasks := fun _ after limit s =>
          (.ok ((unreadTasks mixedTasks after).take limit.toNat), s) } }
  settings := {}
  services := ⟨"hub-token-service", "token-service"⟩

/-- A run over them when the first one has been processed. -/
theorem handleNewTasks_prefix_mixed :
    TaskHub mixedRelayer mixedTasks ∧
    ∃ w : World Simulation Rat, w.taskCursor? = some "task-1" ∧
    ((∀ size : ℕ, 0 < size → ∃ done,
        TaskRun mixedRelayer mixedTasks size w done (mixedRelayer.handleNewTasks size w)) ∧
      ∃ done result, ∀ size : ℕ, 0 < size →
        (∀ e ∈ w.since (mixedRelayer.handleNewTasks size w).2, e.isServed = true) →
        TaskRun mixedRelayer mixedTasks size w done (mixedRelayer.handleNewTasks size w) ∧
          (mixedRelayer.handleNewTasks size w).1 = result ∧
          (w.Steady → (mixedRelayer.applied w (done.map fun task => (task, w.env))).Alike
            (mixedRelayer.handleNewTasks size w).2)) := by
  have hub : TaskHub mixedRelayer mixedTasks := ⟨fun s after size => .inr rfl, by decide⟩
  have hcursor : ∀ id, some "task-1" = some id → id ∈ mixedTasks.map HubTask.id := by
    rintro id ⟨⟩
    decide
  have hlimit : (unreadTasks mixedTasks (some "task-1")).length < mixedRelayer.pageLimit := by
    decide
  have httl : mixedRelayer.broadcasts.ttl.check = .ok () := Quantity.check_eq_ok (by decide +kernel)
  exact ⟨hub, { World.initial {} 0 with cursors := [(taskCursor, "task-1")] }, rfl,
    handleNewTasks_prefix hub httl _ hcursor hlimit⟩

end Relayer

end ChainRelay
