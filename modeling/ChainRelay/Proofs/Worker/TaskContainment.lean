import ChainRelay.Proofs.Worker.TaskPrefix
import ChainRelay.Proofs.Worker.TaskRefusals

/-!
# Tasks that stop a run

The first task that is refused stops a run over tasks. If its fault is one of the domain, the run
contains it: one notification is attempted, the cursor stays at the task before, and the tasks that
were processed are counted. Any other fault is that of the run, and nobody is notified.

## The contract

Which of the two happens depends on the body of the task, as `Escapes` tells. It does not depend on
where the task stands on its page, nor on the tasks before it.

## Main definitions

* `World.notices` — the notifications that were attempted
* `Quiet` — tasks were processed, and nobody was notified
* `Containment` — what a run owes to the task that stops it

## Main results

* `Relayer.processTasks_append` — the accepted tasks at the start of a page
* `Relayer.processTaskPages_stopped` — page after page
* `Relayer.handleNewTasks_containment` — the law of the task that stops a run
-/

namespace ChainRelay

variable {σ τ : Type}

/-! ### Notifications -/

/-- The notification that was attempted. -/
def Event.notice? : Event → Option (Severity × String × String)
  | notified severity title body _ => some (severity, title, body)
  | _ => none

/-- The notifications that were attempted so far. -/
def World.notices (w : World σ τ) : List (Severity × String × String) :=
  w.trace.filterMap Event.notice?

/-- What the operators are told of a task that is refused. -/
def refusalNotice (task : HubTask) : Severity × String × String :=
  (.error, "Task processing error",
    "Could not process task " ++ task.id ++ ", " ++ task.type ++ ". Will be retried")

/-- Tasks were processed, the last of them is named by the cursor, and nobody was notified. -/
structure Quiet (w : World σ τ) (done : List HubTask) (w' : World σ τ) : Prop where
  cursor : w'.taskCursor? = lastTask done w.taskCursor?
  notices : w'.notices = w.notices
  record : w.trace <+: w'.trace

namespace Quiet

variable {w w' w'' : World σ τ} {done done' : List HubTask} {events : List Event}

theorem refl (w : World σ τ) : Quiet w [] w := ⟨rfl, rfl, List.prefix_rfl⟩

theorem trans (h : Quiet w done w') (h' : Quiet w' done' w'') : Quiet w (done ++ done') w'' where
  cursor := by rw [h'.cursor, h.cursor, lastTask_append]
  notices := h'.notices.trans h.notices
  record := h.record.trans h'.record

/-- What is recorded beside the work on tasks. -/
theorem of_trace (hcursors : w'.cursors = w.cursors) (htrace : w'.trace = w.trace ++ events)
    (hquiet : events.filterMap Event.notice? = []) : Quiet w [] w' where
  cursor := by rw [World.taskCursor?, hcursors]; rfl
  notices := by rw [World.notices, htrace, List.filterMap_append, hquiet, List.append_nil]; rfl
  record := by rw [htrace]; exact List.prefix_append _ _

end Quiet

namespace Relayer

variable [Seconds τ] {r : Relayer σ} {task : HubTask} {fault : Fault}

/-- No task notifies anybody, and none sets the cursor. -/
theorem quiet_processTask (r : Relayer σ) (task : HubTask) (w : World σ τ) :
    Quiet w [] (r.processTask task w).2 := by
  cases hitem : itemOf task with
  | some found =>
    rw [processTask, taskHandler_of_itemOf hitem]
    cases found with
    | error fault => exact Quiet.refl w
    | ok item =>
      change Quiet w [] (Work.upsert item w).2
      have htrace : (Work.upsert item w).2.trace = w.trace ++
          if w.store.writes item then [.stored item.rowKey] else [] := by
        rw [Work.upsert]
        dsimp only
        split
        · rfl
        · rw [List.append_nil]
      refine Quiet.of_trace rfl htrace ?_
      split <;> rfl
  | none =>
    cases hbroadcast : r.broadcastOf task with
    | some found =>
      cases found with
      | error fault =>
        rw [processTask_refused hbroadcast]
        exact Quiet.refl w
      | ok keyed =>
        rw [processTask_of_broadcast hbroadcast, BroadcastQueue.put_apply]
        exact Quiet.of_trace rfl (List.append_nil _).symm rfl
    | none =>
      rw [processTask, taskHandler_eq_none hitem hbroadcast]
      exact Quiet.of_trace rfl (List.append_nil _).symm rfl

/-! ### One page -/

/-- The result of a page with some tasks before it. -/
def counting (before : ℕ) (result : Except Halt (ℕ × Bool)) : Except Halt (ℕ × Bool) :=
  result.map fun counted => (before + counted.1, counted.2)

theorem counting_counting (m n : ℕ) (result : Except Halt (ℕ × Bool)) :
    counting m (counting n result) = counting (m + n) result := by
  cases result with
  | error halt => rfl
  | ok counted => simp only [counting, Except.map, Nat.add_assoc]

theorem counting_zero (result : Except Halt (ℕ × Bool)) : counting 0 result = result := by
  cases result with
  | error halt => rfl
  | ok counted => simp only [counting, Except.map, Nat.zero_add]

/-- A task that is accepted counts, and the rest of the page follows. -/
theorem processTasks_cons (haccepts : r.Accepts τ task) (w : World σ τ) :
    ∃ w', Quiet w [task] w' ∧ ∀ rest, r.processTasks (task :: rest) w =
      (counting 1 (r.processTasks rest w').1, (r.processTasks rest w').2) := by
  obtain ⟨known, hknown⟩ := haccepts w
  obtain ⟨w₁, hw₁⟩ : ∃ w₁, (r.processTask task w).2 = w₁ := ⟨_, rfl⟩
  obtain ⟨w₂, hset⟩ : ∃ w₂, Work.setCursor taskCursor task.id w₁ = (.ok (), w₂) := ⟨_, rfl⟩
  have hkept : Work.attempt (r.processTask task) w = (.ok (.ok known), w₁) :=
    Work.attempt_apply_of_ok (Prod.ext hknown hw₁)
  have hfirst : Quiet w [] w₁ := hw₁ ▸ r.quiet_processTask task w
  have hsecond : Quiet w₁ [task] w₂ := by
    rw [Work.setCursor_apply] at hset
    obtain rfl := (Prod.mk.inj hset).2
    refine ⟨?_, ?_, List.prefix_append _ _⟩
    · exact (Work.lookup_putCursor _ _ _ _).trans (if_pos rfl)
    · exact List.filterMap_append.trans (List.append_nil _)
  refine ⟨w₂, hfirst.trans hsecond, fun rest => ?_⟩
  rw [processTasks, Work.bind_apply_of_ok hkept]
  dsimp only
  rw [Work.bind_apply_of_ok hset, Work.bind_apply]
  obtain ⟨result, w₃⟩ := r.processTasks rest w₂
  cases result with
  | error halt => rfl
  | ok counted =>
    simp only [counting, Except.map, Nat.add_comm 1]
    rfl

/-- **The accepted tasks at the start of a page** count, and the rest of the page follows. -/
theorem processTasks_append {done : List HubTask} (hdone : ∀ task ∈ done, r.Accepts τ task)
    (w : World σ τ) : ∃ w', Quiet w done w' ∧ ∀ rest, r.processTasks (done ++ rest) w =
      (counting done.length (r.processTasks rest w').1, (r.processTasks rest w').2) := by
  induction done generalizing w with
  | nil =>
    refine ⟨w, Quiet.refl w, fun rest => ?_⟩
    rw [List.nil_append, List.length_nil, counting_zero]
    rfl
  | cons task done ih =>
    obtain ⟨haccepts, hdone⟩ := List.forall_mem_cons.mp hdone
    obtain ⟨w₁, hfirst, hnext⟩ := processTasks_cons haccepts w
    obtain ⟨w₂, hrest, hpage⟩ := ih hdone w₁
    refine ⟨w₂, hfirst.trans hrest, fun rest => ?_⟩
    rw [List.cons_append, hnext, hpage, counting_counting, List.length_cons, Nat.add_comm]

/-- A task that is refused is the last one. Nobody is notified unless its fault is one of the
domain. -/
theorem processTasks_of_refuses (hrefuses : r.Refuses τ task fault) (rest : List HubTask)
    (w : World σ τ) : ∃ w', w'.taskCursor? = w.taskCursor? ∧
      w'.notices = w.notices ++ (if fault.isDomain then [refusalNotice task] else []) ∧
      r.processTasks (task :: rest) w =
        (if fault.isDomain then .ok (0, false) else .error (.fault fault), w') := by
  have hkept : Work.attempt (r.processTask task) w = (.ok (.error fault), w) :=
    Work.attempt_apply_of_fault (hrefuses w)
  rw [processTasks, Work.bind_apply_of_ok hkept]
  dsimp only
  cases hdomain : fault.isDomain with
  | true =>
    rw [if_pos rfl, if_pos rfl, if_pos rfl]
    obtain ⟨w', answer, hreport, later⟩ := r.report_apply _ _ _ _ (0, false) w
    refine ⟨w', ?_, ?_, hreport⟩
    · obtain ⟨env, journal, rfl⟩ := later
      rfl
    · rw [World.notices, later.trace_eq, List.filterMap_append]
      rfl
  | false => exact ⟨w, rfl, (List.append_nil _).symm, rfl⟩

/-! ### Page after page -/

/-- How a run ends whose first refused task is `task`, after the tasks `done`. -/
structure Stopped (w : World σ τ) (done : List HubTask) (task : HubTask) (fault : Fault)
    (run : Except Halt ℕ × World σ τ) : Prop where
  result : run.1 = if fault.isDomain then .ok done.length else .error (.fault fault)
  cursor : run.2.taskCursor? = lastTask done w.taskCursor?
  notices : run.2.notices =
    w.notices ++ if fault.isDomain then [refusalNotice task] else []

omit [Seconds τ] in
/-- Tasks that were processed before. -/
theorem Stopped.of_quiet {w w' : World σ τ} {page done : List HubTask}
    {run : Except Halt ℕ × World σ τ} (hquiet : Quiet w page w')
    (h : Stopped w' done task fault run) :
    Stopped w (page ++ done) task fault (run.1.map (page.length + ·), run.2) where
  result := by
    dsimp only
    rw [h.result, List.length_append]
    split <;> rfl
  cursor := by rw [h.cursor, hquiet.cursor, lastTask_append]
  notices := by rw [h.notices, hquiet.notices]

variable {tasks : List HubTask} {size : ℕ}

/-- A page is asked for, which is no work on tasks. -/
theorem askTasks_quiet (r : Relayer σ) (size : ℕ) (after : Option String) (w : World σ τ) :
    ∃ w', Work.attempt (Work.ask (r.collaborators.hub.tasks r.settings.sourceChain after size)
        (.tasksRead after size)) w =
      (.ok (r.collaborators.hub.tasks r.settings.sourceChain after size w.env).1, w') ∧
      w'.trace = w.trace ++ [.tasksRead after size
        (r.collaborators.hub.tasks r.settings.sourceChain after size w.env).1] ∧
      Quiet w [] w' := by
  obtain ⟨w', hask, htrace, hdone⟩ := r.askTasks_apply size after w
  exact ⟨w', hask, htrace, Quiet.of_trace hdone.cursors htrace rfl⟩

/-- A page that is not served is on record. -/
theorem recorded_of_fault {w : World σ τ}
    (hanswer : (r.collaborators.hub.tasks r.settings.sourceChain w.taskCursor? size w.env).1 =
      .error fault) (pages : ℕ) :
    ∃ e ∈ w.since (r.processTaskPages size (pages + 1) w.taskCursor? w).2, e.isServed = false := by
  obtain ⟨w₁, hask, htrace, -⟩ := r.askTasks_quiet size w.taskCursor? w
  rw [hanswer] at hask htrace
  have hrecorded {w' : World σ τ} {report : List Event} (later : w₁.Later w' report) :
      ∃ e ∈ w.since w', e.isServed = false := by
    refine ⟨.tasksRead w.taskCursor? size (.error fault), ?_, rfl⟩
    rw [World.since, later.trace_eq, htrace, List.append_assoc, List.drop_left]
    exact List.mem_cons_self
  rw [processTaskPages, Work.bind_apply_of_ok hask]
  dsimp only
  split
  · obtain ⟨w₂, answer, hreport, later⟩ := r.report_apply _ _ _ _ 0 w₁
    rw [hreport]
    exact hrecorded later
  · exact hrecorded (World.Later.refl w₁)

/-- **A page that holds the task** stops the run. -/
theorem processTaskPages_stop {w : World σ τ} {page done rest : List HubTask}
    (hanswer : (r.collaborators.hub.tasks r.settings.sourceChain w.taskCursor? size w.env).1 =
      .ok page) (hsplit : page = done ++ task :: rest) (hdone : ∀ task ∈ done, r.Accepts τ task)
    (hrefuses : r.Refuses τ task fault) (pages : ℕ) :
    Stopped w done task fault (r.processTaskPages size (pages + 1) w.taskCursor? w) := by
  obtain ⟨w₁, hask, -, hasked⟩ := r.askTasks_quiet size w.taskCursor? w
  obtain ⟨w₂, hprocessed, hpage⟩ := processTasks_append hdone w₁
  obtain ⟨w₃, hcursor, hnotices, hlast⟩ := processTasks_of_refuses hrefuses rest w₂
  have hquiet : Quiet w done w₂ := hasked.trans hprocessed
  have hnewest : ∃ newest, page.getLast? = some newest := by
    rw [hsplit, List.getLast?_append]
    exact ⟨_, rfl⟩
  obtain ⟨newest, hnewest⟩ := hnewest
  rw [hanswer] at hask
  rw [processTaskPages, Work.bind_apply_of_ok hask]
  dsimp only
  rw [hnewest]
  dsimp only
  rw [Work.bind_apply, hsplit, hpage, hlast]
  -- contained or not, the world is that after the refusal
  cases hdomain : fault.isDomain
  all_goals
    rw [hdomain] at hnotices
    refine ⟨?_, hcursor.trans hquiet.cursor, ?_⟩
    · rw [hdomain]
      rfl
    · rw [hdomain, ← hquiet.notices]
      exact hnotices

/-- **A page of accepted tasks** is followed by the next one. -/
theorem processTaskPages_next {w : World σ τ} {page : List HubTask}
    (hanswer : (r.collaborators.hub.tasks r.settings.sourceChain w.taskCursor? size w.env).1 =
      .ok page) (hnonempty : page ≠ []) (haccepted : ∀ task ∈ page, r.Accepts τ task)
    (pages : ℕ) : ∃ w', Quiet w page w' ∧
      r.processTaskPages size (pages + 1) w.taskCursor? w =
        ((r.processTaskPages size pages w'.taskCursor? w').1.map (page.length + ·),
          (r.processTaskPages size pages w'.taskCursor? w').2) := by
  obtain ⟨w₁, hask, -, hasked⟩ := r.askTasks_quiet size w.taskCursor? w
  obtain ⟨w₂, hprocessed, hpage⟩ := processTasks_append haccepted w₁
  obtain ⟨newest, hnewest⟩ := List.getLast?_isSome.mpr hnonempty |> Option.isSome_iff_exists.mp
  obtain ⟨w₃, hlog⟩ : ∃ w₃, (Work.log {
      level := .info, logger := taskLogger
      message := "processed " ++ toString page.length ++ " tasks, last task id " ++
        newest.id } : Work σ τ Unit) w₂ = (.ok (), w₃) := ⟨_, rfl⟩
  have hlogged : Quiet w₂ [] w₃ := by
    rw [Work.log_apply] at hlog
    obtain rfl := (Prod.mk.inj hlog).2
    exact Quiet.of_trace rfl (List.append_nil _).symm rfl
  have hquiet : Quiet w page w₃ := by
    simpa using (hasked.trans hprocessed).trans hlogged
  have hcursor : w₃.taskCursor? = some newest.id := by
    rw [hquiet.cursor, lastTask, hnewest]
    rfl
  have hall : r.processTasks page w₁ = (.ok (page.length, true), w₂) := by
    have h := hpage []
    rw [List.append_nil] at h
    exact h
  refine ⟨w₃, hquiet, ?_⟩
  rw [hanswer] at hask
  rw [processTaskPages, Work.bind_apply_of_ok hask]
  dsimp only
  rw [hnewest]
  dsimp only
  rw [Work.bind_apply_of_ok hall]
  dsimp only
  rw [if_pos rfl, Work.bind_apply_of_ok hlog, Work.bind_apply, hcursor]
  obtain ⟨result, w₄⟩ := r.processTaskPages size pages (some newest.id) w₃
  cases result <;> rfl

/-- **Page after page.** The first task that is refused stops the run, whichever page it is on. -/
theorem processTaskPages_stopped (hub : TaskHub r tasks) (hsize : 0 < size)
    (hrefuses : r.Refuses τ task fault) {rest : List HubTask} (pages : ℕ) {done : List HubTask}
    (w : World σ τ) (hcursor : ∀ id, w.taskCursor? = some id → id ∈ tasks.map HubTask.id)
    (hunread : unreadTasks tasks w.taskCursor? = done ++ task :: rest)
    (hdone : ∀ task ∈ done, r.Accepts τ task) (hpages : done.length < pages)
    (hserved : ∀ e ∈ w.since (r.processTaskPages size pages w.taskCursor? w).2,
      e.isServed = true) :
    Stopped w done task fault (r.processTaskPages size pages w.taskCursor? w) := by
  induction pages generalizing w done with
  | zero => exact absurd hpages (Nat.not_lt_zero _)
  | succ pages ih =>
    rcases hub.serves w.env w.taskCursor? size with ⟨fault', hanswer⟩ | hanswer
    · obtain ⟨e, he, hlost⟩ := recorded_of_fault hanswer pages
      rw [hserved e he] at hlost
      cases hlost
    rw [hunread] at hanswer
    rcases Nat.lt_or_ge done.length size with hpage | hpage
    · -- the task is on this page
      obtain ⟨more, rfl⟩ := Nat.exists_eq_add_of_lt hpage
      have hsplit : (done ++ task :: rest).take (done.length + more + 1) =
          done ++ task :: rest.take more := by
        rw [Nat.add_assoc, List.take_length_add_append, List.take_succ_cons]
      exact processTaskPages_stop hanswer hsplit hdone hrefuses pages
    · -- it is on one of the next
      rw [List.take_append_of_le_length hpage] at hanswer
      have hsplit : done.take size ++ done.drop size = done := List.take_append_drop _ _
      have hlength : (done.take size).length = size := List.length_take_of_le hpage
      have hnonempty : done.take size ≠ [] := by
        rw [← List.length_pos_iff, hlength]
        exact hsize
      obtain ⟨w', hquiet, hrun⟩ := processTaskPages_next hanswer hnonempty
        (fun t ht => hdone t (List.mem_of_mem_take ht)) pages
      rw [← hsplit, List.append_assoc] at hunread
      have hsubset : done.take size ⊆ tasks := by
        intro t ht
        refine unreadTasks_subset tasks w.taskCursor? ?_
        rw [hunread]
        exact List.mem_append_left _ ht
      have hcursor' : ∀ id, w'.taskCursor? = some id → id ∈ tasks.map HubTask.id := by
        intro id hid
        rw [hquiet.cursor] at hid
        exact mem_of_lastTask hcursor hsubset hid
      have hunread' : unreadTasks tasks w'.taskCursor? = done.drop size ++ task :: rest := by
        rw [hquiet.cursor]
        exact unreadTasks_lastTask hub.distinct hcursor hunread
      have hpages' : (done.drop size).length < pages := by
        rw [List.length_drop]
        omega
      have hserved' : ∀ e ∈ w'.since (r.processTaskPages size pages w'.taskCursor? w').2,
          e.isServed = true := by
        intro e he
        refine hserved e ?_
        rw [hrun]
        exact (List.drop_suffix_drop_left _ hquiet.record.length_le).subset he
      have hstopped := ih w' hcursor' hunread' (fun t ht => hdone t (List.mem_of_mem_drop ht))
        hpages' hserved'
      have hwhole := hstopped.of_quiet hquiet
      rw [hsplit] at hwhole
      rw [hrun]
      exact hwhole

end Relayer

/-! ### The task that stops a run -/

/-- What a run owes to the first task that is refused, where `done` are the tasks before it. -/
structure Containment (w : World σ τ) (done : List HubTask) (task : HubTask) (body : Fields)
    (run : Except Halt ℕ × World σ τ) : Prop where
  /-- The cursor is left at the task before. -/
  cursor : run.2.taskCursor? = lastTask done w.taskCursor?
  /-- If the body gets past no check, one notification is attempted, and the run ends with the
  number of tasks that were processed. -/
  contained : (∀ fault, ¬ Escapes task.type body fault) →
    run.1 = .ok done.length ∧ run.2.notices = w.notices ++ [refusalNotice task]
  /-- If it gets past all of them, its fault is that of the run, and nobody is notified. -/
  escaped : ∀ fault, Escapes task.type body fault →
    run.1 = .error (.fault fault) ∧ run.2.notices = w.notices

namespace Relayer

variable [Seconds τ] {r : Relayer σ} {tasks done rest : List HubTask} {task : HubTask}
  {body : Fields} {size : ℕ}

/-- **The task that stops a run.** The first task that cannot be processed is contained, on
whichever page it is, unless its body gets past all checks of its handler. -/
theorem handleNewTasks_containment (hub : TaskHub r tasks)
    (httl : r.broadcasts.ttl.check = .ok ()) (w : World σ τ)
    (hcursor : ∀ id, w.taskCursor? = some id → id ∈ tasks.map HubTask.id)
    (hlimit : (unreadTasks tasks w.taskCursor?).length < r.pageLimit) (hsize : 0 < size)
    (hunread : unreadTasks tasks w.taskCursor? = done ++ task :: rest)
    (hdone : ∀ task ∈ done, r.Accepts τ task) (hbody : task.body = .obj body)
    (hrefused : ¬ r.Accepts τ task)
    (hserved : ∀ e ∈ w.since (r.handleNewTasks size w).2, e.isServed = true) :
    Containment w done task body (r.handleNewTasks size w) := by
  obtain ⟨fault, hrefuses⟩ : ∃ fault, r.Refuses τ task fault :=
    (r.refuses_or_accepts τ httl task).resolve_right fun h => hrefused h.1
  have hpages : done.length < r.pageLimit := by
    rw [hunread, List.length_append] at hlimit
    omega
  have hstopped : Stopped w done task fault (r.handleNewTasks size w) :=
    processTaskPages_stopped hub hsize hrefuses r.pageLimit w hcursor hunread hdone hpages hserved
  have hescapes (fault' : Fault) :
      r.Refuses τ task fault' ∧ fault'.isDomain = false ↔ Escapes task.type body fault' :=
    refuses_uncaught_iff τ r httl w hbody
  refine ⟨hstopped.cursor, fun hnone => ?_, fun fault' hescapes' => ?_⟩
  · have hdomain : fault.isDomain = true := by
      cases hdomain : fault.isDomain with
      | true => rfl
      | false => exact absurd ((hescapes fault).mp ⟨hrefuses, hdomain⟩) (hnone fault)
    have hresult := hstopped.result
    have hnotices := hstopped.notices
    rw [hdomain] at hresult hnotices
    exact ⟨hresult, hnotices⟩
  · obtain ⟨hrefuses', hdomain⟩ := (hescapes fault').mpr hescapes'
    -- a task is refused with one fault only
    cases (hrefuses w).symm.trans (hrefuses' w)
    have hresult := hstopped.result
    have hnotices := hstopped.notices
    rw [hdomain] at hresult hnotices
    rw [if_neg Bool.false_ne_true, List.append_nil] at hnotices
    exact ⟨hresult, hnotices⟩

/-- A relayer whose hub serves some tasks, on a few pages. -/
def servingRelayer (tasks : List HubTask) : Relayer Simulation :=
  { mixedRelayer with
    collaborators :=
      let plain := Simulation.collaborators
      { plain with
        hub := { plain.hub with
          tasks := fun _ after limit s =>
            (.ok ((unreadTasks tasks after).take limit.toNat), s) } }
    pageLimit := 5 }

theorem taskHub_servingRelayer {tasks : List HubTask} (h : (tasks.map HubTask.id).Nodup) :
    TaskHub (servingRelayer tasks) tasks :=
  ⟨fun _ _ _ => .inr rfl, h⟩

/-- A task whose message is a text, and not an object. -/
def strayTask : HubTask := ⟨"task-1", "EXECUTE", .obj [("message", .str "m-1")]⟩

/-- **A task that is not contained.** Its message has no members, which is found out when the chain
is asked for. The run ends with that fault: no notification is attempted, and the tasks that were
processed are not counted. -/
theorem handleNewTasks_strays :
    let run := (servingRelayer [strayTask]).handleNewTasks taskPageSize
      (World.initial {} 0 : World Simulation Rat)
    TaskHub (servingRelayer [strayTask]) [strayTask] ∧
      run.1 = .error (.fault (.notAnObject .text "get")) ∧
      run.2.notices = [] ∧ run.2.taskCursor? = none := by
  exact ⟨taskHub_servingRelayer (by decide), rfl, rfl, rfl⟩

/-- The law when three tasks are accepted and the fourth, on the second page, lacks the data for its
work item. -/
theorem handleNewTasks_containment_mixed :
    let r := servingRelayer mixedTasks
    let w : World Simulation Rat := World.initial {} 0
    let lacking : HubTask := ⟨"task-4", "GATEWAY_TX", .obj []⟩
    TaskHub r mixedTasks ∧ (∀ task ∈ mixedTasks.take 3, r.Accepts Rat task) ∧
      ¬ r.Accepts Rat lacking ∧ (∀ fault, ¬ Escapes lacking.type [] fault) ∧
      Containment w (mixedTasks.take 3) lacking [] (r.handleNewTasks (2 : ℕ) w) := by
  have hub : TaskHub (servingRelayer mixedTasks) mixedTasks := taskHub_servingRelayer (by decide)
  have httl : (servingRelayer mixedTasks).broadcasts.ttl.check = .ok () :=
    Quantity.check_eq_ok (by decide +kernel)
  have hdone : ∀ task ∈ mixedTasks.take 3, (servingRelayer mixedTasks).Accepts Rat task := by
    intro task htask
    simp only [mixedTasks, List.take_succ_cons, List.take_zero, List.mem_cons,
      List.not_mem_nil, or_false] at htask
    rcases htask with rfl | rfl | rfl
    · exact fun w => ⟨false, rfl⟩
    · exact fun w => ⟨true, rfl⟩
    · exact fun w => ⟨true, rfl⟩
  have hrefused : ¬ (servingRelayer mixedTasks).Accepts Rat ⟨"task-4", "GATEWAY_TX", .obj []⟩ :=
    fun h => h.not_refuses (World.initial {} 0) (fun w => rfl)
  refine ⟨hub, hdone, hrefused, fun fault h => ?_, ?_⟩
  · cases h with
    | message known | gas known | refunded known | remaining known =>
      exact absurd known (by decide)
    | request known => cases known
  · exact handleNewTasks_containment hub httl _ (by rintro id ⟨⟩) (by decide) (by decide) rfl hdone
      rfl hrefused (by decide +kernel)

end Relayer

end ChainRelay
