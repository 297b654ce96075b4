import ChainRelay.Proofs.World.Likeness
import ChainRelay.Proofs.Worker.Acknowledgement
import ChainRelay.Proofs.Worker.Reports

/-!
# Nobody who is told has a say

The operators and the hub are told what becomes of a message. Whatever they answer, and whether they
answer at all, the messages are executed in the same way: the same is looked up, built, invalidated
and sent, with the same answers, and the same items are returned.

## The contract

Those who are told have a state of their own. They may see everything else, but they do not change
it, and the clock does not wait for them. The hub may fail as a collaborator does, and it may answer
with any results; the operators may not be reached for any reason at all.

## Main definitions

* `Audience` — those who are told
* `Relayer.reportingTo`, `World.beside` — a relayer that tells them, in a world with both states

## Main results

* `Relayer.decideMessage_alike` — one turn, with two audiences
* `Relayer.messageBatch_unswayed` — a batch, with two audiences, and what both of them are told
-/

namespace ChainRelay

variable {σ ρ ρ' τ α β : Type}

/-! ### Those who are told -/

/-- A hub that takes events and a sink for notifications, with a state of their own. What they
answer may also depend on the state of everything else. -/
structure Audience (σ ρ : Type) where
  post : (events : List Json) → (correlation : String) →
    σ × ρ → Except Fault (List EventResult) × ρ
  notify : Severity → (title body : String) → σ × ρ → Except Fault Unit × ρ

/-- A hub that fails only as a collaborator does. -/
def Audience.Dependable (a : Audience σ ρ) : Prop :=
  ∀ events correlation s fault, (a.post events correlation s).1 = .error fault →
    fault.isDependency = true

/-- An answer that changes the second state only. -/
def Answers.onSecond (answer : σ × ρ → Except Fault α × ρ) : Answers (σ × ρ) α :=
  fun s => ((answer s).1, s.1, (answer s).2)

/-- A relayer that tells others than its own hub and its own operators. -/
def Relayer.reportingTo (r : Relayer σ) (a : Audience σ ρ) : Relayer (σ × ρ) where
  collaborators := { r.collaborators.onFirst ρ with
    hub := { (r.collaborators.onFirst ρ).hub with
      post := fun events correlation => Answers.onSecond (a.post events correlation) }
    notify := fun severity title body => Answers.onSecond (a.notify severity title body) }
  settings := r.settings
  services := r.services
  broadcasts := r.broadcasts
  pageLimit := r.pageLimit

/-- A world with another state beside that of the collaborators. Its clocks do not see it. -/
def World.beside (w : World σ τ) (s : ρ) : World (σ × ρ) τ :=
  { w with
    env := (w.env, s)
    wallShown := fun env => w.wallShown env.1
    monoShown := fun env => w.monoShown env.1 }

/-- A notification or a post. -/
def Event.isReport : Event → Bool
  | notified _ _ _ _ | posted _ _ _ => true
  | _ => false

/-- What is recorded besides reports. -/
def Event.unreported (e : Event) : Bool := !e.isReport

/-- States that are the same but for those who are told. -/
def SameFirst (s : σ × ρ) (s' : σ × ρ') : Prop := s.1 = s'.1

theorem Answers.onFirst_alike (answers : Answers σ α) :
    Answers.Alike SameFirst (answers.onFirst : Answers (σ × ρ) α)
      (answers.onFirst : Answers (σ × ρ') α) := by
  rintro ⟨s, t⟩ ⟨s', t'⟩ h
  obtain rfl : s = s' := h
  exact ⟨rfl, rfl⟩

theorem World.beside_sameTime (w : World σ τ) (s : ρ) (s' : ρ') :
    (w.beside s).SameTime SameFirst (w.beside s') where
  env := rfl
  clock := by
    rintro ⟨s, t⟩ ⟨s', t'⟩ h
    obtain rfl : s = s' := h
    rfl

/-! ### Work that only reports -/

namespace Work

/-- Work that records reports only and changes nothing but the state of those who are told. -/
def OnlyReports (work : Work (σ × ρ) τ α) : Prop :=
  ∀ w, ∃ events, w.Later (work w).2 events ∧ (work w).2.env.1 = w.env.1 ∧
    ∀ e ∈ events, e.isReport = true

variable {work : Work (σ × ρ) τ α} {next : α → Work (σ × ρ) τ β}

theorem onlyReports_pure (a : α) : (pure a : Work (σ × ρ) τ α).OnlyReports :=
  fun w => ⟨[], .refl w, rfl, by simp⟩

theorem onlyReports_fail (fault : Fault) : (fail fault : Work (σ × ρ) τ α).OnlyReports :=
  fun w => ⟨[], .refl w, rfl, by simp⟩

theorem onlyReports_ofExcept (value : Except Fault α) :
    (ofExcept value : Work (σ × ρ) τ α).OnlyReports := by
  cases value with
  | ok a => exact onlyReports_pure a
  | error fault => exact onlyReports_fail fault

theorem onlyReports_log (line : LogLine) : (log line : Work (σ × ρ) τ Unit).OnlyReports :=
  fun w => ⟨[], ⟨w.env, _, by rw [List.append_nil]; rfl⟩, rfl, by simp⟩

/-- A report is a question to those who are told. -/
theorem onlyReports_ask {answer : σ × ρ → Except Fault α × ρ} {event : Except Fault α → Event}
    (h : ∀ a, (event a).isReport = true) :
    (ask (Answers.onSecond answer) event : Work (σ × ρ) τ α).OnlyReports := by
  intro w
  rw [ask_apply]
  exact ⟨_, ⟨_, w.journal, rfl⟩, rfl, by simpa using h _⟩

theorem OnlyReports.bind (h : work.OnlyReports) (hnext : ∀ a, (next a).OnlyReports) :
    (work >>= next).OnlyReports := by
  intro w
  obtain ⟨first, later, henv, hfirst⟩ := h w
  rw [bind_apply]
  cases hrun : work w with
  | mk result w' =>
    rw [hrun] at later henv
    cases result with
    | error halt => exact ⟨first, later, henv, hfirst⟩
    | ok a =>
      obtain ⟨rest, later', henv', hrest⟩ := hnext a w'
      refine ⟨first ++ rest, later.trans later', henv'.trans henv, fun e he => ?_⟩
      rcases List.mem_append.mp he with he | he
      · exact hfirst e he
      · exact hrest e he

theorem OnlyReports.attempt (h : work.OnlyReports) : (Work.attempt work).OnlyReports := by
  intro w
  rw [attempt_snd]
  exact h w

/-- **Reports go alike**, whoever is told, if they end in the same way. -/
theorem OnlyReports.alike {work' : Work (σ × ρ') τ α} {a : α} (h : work.OnlyReports)
    (h' : work'.OnlyReports) (hends : work.Always (· = .ok a)) (hends' : work'.Always (· = .ok a)) :
    work.Alike SameFirst Event.unreported work' := by
  intro w w' hw
  obtain ⟨events, later, henv, hreports⟩ := h w
  obtain ⟨events', later', henv', hreports'⟩ := h' w'
  have hhidden {events : List Event} (h : ∀ e ∈ events, e.isReport = true) :
      events.filter Event.unreported = [] :=
    List.filter_eq_nil_iff.mpr fun e he => by simp [Event.unreported, h e he]
  refine ⟨events, events', later, later', (hends w).trans (hends' w').symm, ?_, ?_⟩
  · exact henv.trans (hw.env.trans henv'.symm)
  · rw [hhidden hreports, hhidden hreports']

end Work

/-! ### Reports about a message -/

namespace Relayer

variable (r : Relayer σ) {a : Audience σ ρ}

theorem notifySafely_onlyReports (severity : Severity) (title body : String) :
    ((r.reportingTo a).notifySafely severity title body : Work (σ × ρ) τ Unit).OnlyReports := by
  refine (Work.OnlyReports.attempt (Work.onlyReports_ask fun _ => rfl)).bind fun outcome => ?_
  cases outcome with
  | ok _ => exact Work.onlyReports_pure ()
  | error fault => exact Work.onlyReports_log _

theorem reviewResults_onlyReports (events : List Json) (correlation : String) (tell : Bool)
    (results : List EventResult) :
    ((r.reportingTo a).reviewResults events correlation tell results :
      Work (σ × ρ) τ Unit).OnlyReports := by
  induction results with
  | nil => exact Work.onlyReports_pure ()
  | cons result rest ih =>
    rw [reviewResults]
    split
    · exact ih
    · refine (Work.onlyReports_ofExcept _).bind fun type => ?_
      dsimp only
      split
      · refine (Work.onlyReports_log _).bind fun _ => ?_
        split
        · exact (r.notifySafely_onlyReports _ _ _).bind fun _ => ih
        · exact ih
      · refine (Work.onlyReports_log _).bind fun _ => ?_
        split
        · exact (r.notifySafely_onlyReports _ _ _).bind fun _ =>
            (Work.onlyReports_ofExcept _).bind fun _ => Work.onlyReports_fail _
        · exact (Work.onlyReports_ofExcept _).bind fun _ => Work.onlyReports_fail _

theorem publish_onlyReports (events : List Json) (correlation : String) (tell : Bool) :
    ((r.reportingTo a).publish events correlation tell : Work (σ × ρ) τ Unit).OnlyReports := by
  rw [publish]
  split
  · exact Work.onlyReports_pure ()
  · refine (Work.onlyReports_ask fun _ => rfl).bind fun results => ?_
    split
    · exact Work.onlyReports_fail _
    · exact r.reviewResults_onlyReports _ _ _ _

variable (item : WorkItem)

theorem tellHub_onlyReports (reason : CannotExecute) :
    ((r.reportingTo a).tellHub item reason : Work (σ × ρ) τ Unit).OnlyReports := by
  rw [tellHub]
  split
  · refine (r.publish_onlyReports _ _ _).attempt.bind fun outcome => ?_
    cases outcome with
    | ok _ => exact Work.onlyReports_pure ()
    | error fault =>
      dsimp only
      split
      · exact Work.onlyReports_log _
      · exact Work.onlyReports_fail _
  · exact Work.onlyReports_pure ()

/-- Whatever a hub does with the event that fails only as a collaborator does, the turn goes on. -/
theorem tellHub_always (ha : a.Dependable) (reason : CannotExecute) :
    ((r.reportingTo a).tellHub item reason : Work (σ × ρ) τ Unit).Always (· = .ok ()) := by
  rw [tellHub]
  split
  · intro w
    have hevent (m : Message) (event : Json)
        (h : event ∈ [cannotExecuteEvent item m (r.reportingTo a).settings.sourceChain reason]) :
        ∃ fields, event = .obj fields :=
      ⟨_, List.mem_singleton.mp h⟩
    rcases (r.reportingTo a).publish_contained (hevent _) (item.txHash.getD "") false w
      fun fault h => ha _ _ _ fault h with hok | ⟨fault, hdependency, herror⟩
    · rw [Work.bind_apply_of_ok (Work.attempt_apply_of_ok (Prod.ext hok rfl))]
      rfl
    · rw [Work.bind_apply_of_ok (Work.attempt_apply_of_fault (Prod.ext herror rfl))]
      dsimp only
      rw [if_pos hdependency]
      rfl
  · exact Work.always_pure rfl

end Relayer

/-! ### With two audiences -/

namespace Relayer

variable (r : Relayer σ) {a : Audience σ ρ} {a' : Audience σ ρ'}

theorem notifySafely_alike (severity : Severity) (title body : String) :
    ((r.reportingTo a).notifySafely severity title body : Work (σ × ρ) τ Unit).Alike SameFirst
      Event.unreported ((r.reportingTo a').notifySafely severity title body) :=
  (r.notifySafely_onlyReports _ _ _).alike (r.notifySafely_onlyReports _ _ _)
    (notifySafely_always _ _ _ _) (notifySafely_always _ _ _ _)

variable (item : WorkItem)

theorem failInvalid_alike (detail : String) :
    ((r.reportingTo a).failInvalid item detail : Work (σ × ρ) τ WorkItem).Alike SameFirst
      Event.unreported ((r.reportingTo a').failInvalid item detail) :=
  (Work.alike_log _).bind fun _ => (r.notifySafely_alike _ _ _).bind fun _ => Work.alike_pure _

theorem failTerminal_alike (ha : a.Dependable) (ha' : a'.Dependable) (reason : CannotExecute) :
    ((r.reportingTo a).failTerminal item reason : Work (σ × ρ) τ WorkItem).Alike SameFirst
      Event.unreported ((r.reportingTo a').failTerminal item reason) := by
  have hreport : ((r.reportingTo a).reportGivenUp item reason : Work (σ × ρ) τ Unit).Alike SameFirst
      Event.unreported ((r.reportingTo a').reportGivenUp item reason) := by
    unfold reportGivenUp
    cases reason <;> exact (Work.alike_log _).bind fun _ => r.notifySafely_alike _ _ _
  refine hreport.bind fun _ => Work.Alike.bind ?_ fun _ => Work.alike_pure _
  exact (r.tellHub_onlyReports item reason).alike (r.tellHub_onlyReports item reason)
    (r.tellHub_always item ha reason) (r.tellHub_always item ha' reason)

theorem decideByBuild_alike (ha : a.Dependable) (ha' : a'.Dependable) (m : Message) :
    ((r.reportingTo a).decideByBuild item m : Work (σ × ρ) τ Decision).Alike SameFirst
      Event.unreported ((r.reportingTo a').decideByBuild item m) := by
  rw [decideByBuild, decideByBuild]
  refine (Work.alike_ask (Answers.onFirst_alike _) _).bind fun o => ?_
  cases o.kind? with
  | none => exact Work.alike_fail _
  | some kind =>
    cases kind with
    | built => cases o.transaction <;> exact Work.alike_pure _
    | recoverable =>
      refine (Work.alike_log _).bind fun _ => ?_
      refine (r.notifySafely_alike _ _ _).bind fun _ => ?_
      exact (Work.alike_ask (Answers.onFirst_alike _) _).bind fun _ => Work.alike_pure _
    | insufficientBalance =>
      exact (r.failTerminal_alike item ha ha' _).bind fun _ => Work.alike_pure _
    | invalidPayload =>
      exact (r.failInvalid_alike item _).bind fun _ => Work.alike_pure _

theorem decideFresh_alike (ha : a.Dependable) (ha' : a'.Dependable) :
    ((r.reportingTo a).decideFresh item : Work (σ × ρ) τ Decision).Alike SameFirst
      Event.unreported ((r.reportingTo a').decideFresh item) := by
  rw [decideFresh, decideFresh]
  split
  · exact (r.failTerminal_alike item ha ha' _).bind fun _ => Work.alike_pure _
  · split
    · split
      · exact (r.failInvalid_alike item _).bind fun _ => Work.alike_pure _
      · exact r.decideByBuild_alike item ha ha' _
    · exact (r.failInvalid_alike item _).bind fun _ => Work.alike_pure _

/-- **One turn goes alike**, whoever is told. -/
theorem decideMessage_alike (ha : a.Dependable) (ha' : a'.Dependable) :
    ((r.reportingTo a).decideMessage item : Work (σ × ρ) τ Decision).Alike SameFirst
      Event.unreported ((r.reportingTo a').decideMessage item) := by
  have hresolved (txHash : String) (confirmation : Confirmation) :
      ((r.reportingTo a).decideResolved item txHash confirmation :
        Work (σ × ρ) τ Decision).Alike SameFirst Event.unreported
          ((r.reportingTo a').decideResolved item txHash confirmation) := by
    cases confirmation with
    | pending => exact Work.alike_pure _
    | errored => exact Work.alike_pure _
    | confirmed =>
      rw [decideResolved, decideResolved]
      split
      · exact (Work.alike_log _).bind fun _ => r.decideFresh_alike item ha ha'
      · exact (Work.alike_log _).bind fun _ => Work.alike_pure _
    | failed => exact r.decideFresh_alike item ha ha'
    | timedOut => exact r.decideFresh_alike item ha ha'
  rw [decideMessage, decideMessage]
  cases item.txHash with
  | none => exact r.decideFresh_alike item ha ha'
  | some txHash =>
    refine Work.alike_now.bind fun now => ?_
    exact (resolveTransaction_alike (Answers.onFirst_alike _) _ _).bind (hresolved txHash)

theorem submit_alike (ordered : Bool) (attempts : List Attempt) :
    ((r.reportingTo a).submit ordered attempts : Work (σ × ρ) τ (List WorkItem)).Alike SameFirst
      Event.unreported ((r.reportingTo a').submit ordered attempts) := by
  have hsend (attempt : Attempt) :
      ((r.reportingTo a).sendAttempt attempt : Work (σ × ρ) τ SendResult).Alike SameFirst
        Event.unreported ((r.reportingTo a').sendAttempt attempt) := by
    rw [sendAttempt, sendAttempt]
    refine (Work.alike_ask (Answers.onFirst_alike _) _).attempt.bind fun outcome => ?_
    cases outcome with
    | ok result => exact Work.alike_pure _
    | error fault =>
      dsimp only
      split
      · exact (Work.alike_log _).bind fun _ => Work.alike_pure _
      · exact Work.alike_fail _
  induction attempts with
  | nil => exact Work.alike_pure []
  | cons attempt rest ih =>
    rw [submit, submit]
    refine (hsend attempt).bind fun result => ?_
    split
    · exact ih.bind fun _ => Work.alike_pure _
    · refine (Work.alike_log _).bind fun _ => ?_
      split
      · exact Work.alike_pure _
      · exact ih.bind fun _ => Work.alike_pure _

theorem messageBatch_alike (ha : a.Dependable) (ha' : a'.Dependable) (ordered : Bool)
    (items : List WorkItem) :
    ((r.reportingTo a).messageBatch ordered items : Work (σ × ρ) τ (List WorkItem)).Alike SameFirst
      Event.unreported ((r.reportingTo a').messageBatch ordered items) := by
  rw [messageBatch, messageBatch]
  refine (Work.alike_log _).bind fun _ => ?_
  refine (Work.Alike.mapM (fun item => r.decideMessage_alike item ha ha') items).bind
    fun decisions => ?_
  exact (r.submit_alike ordered _).bind fun submitted => Work.alike_pure _

/-- **Nobody who is told has a say.** Whoever is told, a batch ends in the same way, with the same
items if it returns, and has looked up, built, invalidated and sent the same with the same answers.
Each audience has been told what it is owed, and nothing else. -/
theorem messageBatch_unswayed (r : Relayer σ) {a : Audience σ ρ} {a' : Audience σ ρ'}
    (ha : a.Dependable) (ha' : a'.Dependable) {items : List WorkItem}
    (hpending : ∀ item ∈ items, item.status = .pending) (ordered : Bool) (w : World σ τ) (s : ρ)
    (s' : ρ') :
    let run := (r.reportingTo a).messageBatch ordered items (w.beside s)
    let run' := (r.reportingTo a').messageBatch ordered items (w.beside s')
    let record := run.2.trace.drop w.trace.length
    let record' := run'.2.trace.drop w.trace.length
    run.1 = run'.1 ∧ record.filter Event.unreported = record'.filter Event.unreported ∧
      ∀ results, run.1 = .ok results →
        ReportLaw (r.reportingTo a) items results
          ((r.reportingTo a).messageTurns items (w.beside s)) record ∧
        ReportLaw (r.reportingTo a') items results
          ((r.reportingTo a').messageTurns items (w.beside s')) record' := by
  intro run run' record record'
  obtain ⟨events, events', later, later', hsame, -, hview⟩ :=
    r.messageBatch_alike ha ha' ordered items (w.beside s) (w.beside s') (w.beside_sameTime s s')
  refine ⟨hsame, ?_, fun results h => ?_⟩
  · have hrecord : record = events := later.drop_trace
    have hrecord' : record' = events' := later'.drop_trace
    rw [hrecord, hrecord', hview]
  · exact ⟨messageBatch_reported hpending h, messageBatch_reported hpending (hsame.symm.trans h)⟩

/-- A hub that is down and operators who cannot be reached. -/
def deafAudience : Audience Simulation Unit where
  post _ _ _ := (.error (.dependency "hub unavailable"), ())
  notify _ _ _ _ := (.error (.failure "sink unavailable"), ())

/-- A hub that wants to see every event again and operators who count what they are told. -/
def pickyAudience : Audience Simulation ℕ where
  post _ _ s := (.ok [{ index := 0, accepted := false, retriable := true }], s.2)
  notify _ _ _ s := (.ok (), s.2 + 1)

/-- Messages that have been tried too often, cannot be paid for, cannot be built this time, and can
be sent. -/
def mixedMessages : List WorkItem :=
  [{ WorkItem.shortMessage "tired" with retry := 3 }, .shortMessage "poor", .shortMessage "shaky",
    .shortMessage "sound"]

/-- The executor for them. -/
def mixedExecutor : Simulation where
  outcomes := [("poor", { kind := "insufficient_balance" }), ("shaky", { kind := "recoverable" })]

/-- The world in which they are worked off. -/
def mixedWorld : World Simulation Unit := World.initial mixedExecutor ()

/-- They are worked off with an audience. -/
def mixedRun {ρ : Type} (a : Audience Simulation ρ) (s : ρ) :
    Except Halt (List WorkItem) × World (Simulation × ρ) Unit :=
  (simulated.reportingTo a).messageBatch true mixedMessages (mixedWorld.beside s)

/-- Both audiences are told of three messages, and the fourth one is sent. -/
theorem messageBatch_unswayed_mixed :
    deafAudience.Dependable ∧ pickyAudience.Dependable ∧
    (∀ item ∈ mixedMessages, item.status = .pending) ∧
    (mixedRun deafAudience ()).1 = (mixedRun pickyAudience 0).1 ∧
    (mixedRun pickyAudience 0).2.trace.filterMap Event.severity? = [.error, .warn, .warn] ∧
    ∃ results, (mixedRun deafAudience ()).1 = .ok results ∧
      results.map (fun out => (out.key, out.status)) =
        [("tired", .failed), ("poor", .failed), ("shaky", .pending), ("sound", .pending)] ∧
      ReportLaw (simulated.reportingTo deafAudience) mixedMessages results
        ((simulated.reportingTo deafAudience).messageTurns mixedMessages (mixedWorld.beside ()))
        ((mixedRun deafAudience ()).2.trace.drop mixedWorld.trace.length) := by
  have hdeaf : deafAudience.Dependable := by
    rintro events correlation s fault h
    cases h
    rfl
  have hpicky : pickyAudience.Dependable := by
    rintro events correlation s fault h
    cases h
  have hpending : ∀ item ∈ mixedMessages, item.status = .pending := by decide
  have hruns := simulated.messageBatch_unswayed hdeaf hpicky hpending true mixedWorld () 0
  have hreturned : (mixedRun deafAudience ()).1.toOption.map (fun results => results.map fun out =>
      (out.key, out.status)) = some [("tired", .failed), ("poor", .failed), ("shaky", .pending),
        ("sound", .pending)] := by decide +kernel
  refine ⟨hdeaf, hpicky, hpending, hruns.1, by decide +kernel, ?_⟩
  obtain ⟨results, hresults, hstatuses⟩ := Option.map_eq_some_iff.mp hreturned
  have hrun : (mixedRun deafAudience ()).1 = .ok results := by
    cases hcase : (mixedRun deafAudience ()).1 with
    | error halt =>
      rw [hcase] at hresults
      cases hresults
    | ok out =>
      rw [hcase] at hresults
      exact congrArg Except.ok (Option.some.inj hresults)
  refine ⟨results, hrun, hstatuses, ?_⟩
  rw [mixedRun]
  exact (hruns.2.2 results hrun).1

end Relayer

end ChainRelay
