import ChainRelay.Proofs.Worker.MessageVerdict

/-!
# What a batch of messages reports

Operators are notified of every message that is failed and of every build that is to be tried again.
The hub is told of the messages that cannot be executed: those that have reached the ceiling and
those for which there is not enough gas.

## The contract

What is owed for an item is a function of two things: the kinds of outcome that the executor has
answered in its turn, and whether the item is failed. It is owed whether or not anybody takes the
report: one that is refused is not made again, and no other one is made in its place.

## Main definitions

* `noticesOwed`, `Relayer.postsOwed` — the reports that are owed for an item
* `ReportLaw` — a batch has reported what it owes, in the order of its items

## Main results

* `Relayer.decideMessage_reported` — the reports of one turn
* `Relayer.messageBatch_reported` — the reports of a batch that ends with results
-/

namespace ChainRelay

variable {σ τ : Type}

/-! ### Reports -/

namespace Event

/-- How urgent a notification was. -/
def severity? : Event → Option Severity
  | notified severity _ _ _ => some severity
  | _ => none

/-- What was posted to the hub. -/
def post? : Event → Option (List Json × String)
  | posted events correlation _ => some (events, correlation)
  | _ => none

/-- The kind of the outcome of a build. -/
def buildKind? : Event → Option BuildKind
  | built _ (.ok outcome) => outcome.kind?
  | _ => none

end Event

/-- Whether an item is failed by a decision. -/
def Decision.fails : Decision → Bool
  | settle item => item.status == .failed
  | _ => false

/-- The notifications that are owed for an item, by the kinds of outcome that were answered to
builds for it, and by whether it is failed. -/
def noticesOwed (kinds : List BuildKind) (fails : Bool) : List Severity :=
  ((kinds.filter (· == .recoverable)).map fun _ => .warn) ++
    if fails then [if kinds.contains .insufficientBalance then .warn else .error] else []

namespace Relayer

/-- What the hub is told of an item that is given up: nothing if it is no message. -/
def givenUpPosts (r : Relayer σ) (item : WorkItem) (reason : CannotExecute) :
    List (List Json × String) :=
  match item.payload with
  | .message m =>
    [([cannotExecuteEvent item m r.settings.sourceChain reason], item.txHash.getD "")]
  | _ => []

/-- What the hub is owed for an item, by the kinds of outcome that were answered to builds for it,
and by whether it is failed. -/
def postsOwed (r : Relayer σ) (item : WorkItem) (kinds : List BuildKind) (fails : Bool) :
    List (List Json × String) :=
  if fails then
    if kinds.contains .insufficientBalance then r.givenUpPosts item .insufficientGas
    else if ceilingReached item.retry retryCeiling then r.givenUpPosts item .error
    else []
  else []

end Relayer

/-- What was reported, and the kinds of outcome that were answered to builds. -/
structure Told (events : List Event) (kinds : List BuildKind) (notices : List Severity)
    (posts : List (List Json × String)) : Prop where
  kinds : events.filterMap Event.buildKind? = kinds
  notices : events.filterMap Event.severity? = notices
  posts : events.filterMap Event.post? = posts

namespace Told

variable {events events' : List Event} {kinds kinds' : List BuildKind}
  {notices notices' : List Severity} {posts posts' : List (List Json × String)}

theorem nil : Told [] [] [] [] := ⟨rfl, rfl, rfl⟩

theorem append (h : Told events kinds notices posts) (h' : Told events' kinds' notices' posts') :
    Told (events ++ events') (kinds ++ kinds') (notices ++ notices') (posts ++ posts') where
  kinds := by rw [List.filterMap_append, h.kinds, h'.kinds]
  notices := by rw [List.filterMap_append, h.notices, h'.notices]
  posts := by rw [List.filterMap_append, h.posts, h'.posts]

/-- One notification. -/
theorem notified (severity : Severity) (title body : String) (answer : Except Fault Unit) :
    Told [.notified severity title body answer] [] [severity] [] := ⟨rfl, rfl, rfl⟩

/-- A lookup is no report, -/
theorem lookedUp (txHash : String) (answer : Except Fault (Option ChainTransaction)) :
    Told [.lookedUp txHash answer] [] [] [] := ⟨rfl, rfl, rfl⟩

/-- and neither is an invalidation. -/
theorem invalidated (item : WorkItem) (answer : Except Fault Unit) :
    Told [.invalidated item answer] [] [] [] := ⟨rfl, rfl, rfl⟩

end Told

/-- Work that tells this, however it ends, and whose values satisfy `v`. -/
def Work.Tells {α : Type} (work : Work σ τ α) (notices : List Severity)
    (posts : List (List Json × String)) (v : α → Prop) : Prop :=
  work.Asks fun events result => Told events [] notices posts ∧ ∀ a, result = .ok a → v a

theorem Work.tells_pure {α : Type} {a : α} {v : α → Prop} (h : v a) :
    (pure a : Work σ τ α).Tells [] [] v := by
  refine (Work.asks_pure a).mono ?_
  rintro events result ⟨rfl, rfl⟩
  refine ⟨.nil, fun b hb => ?_⟩
  cases hb
  exact h

/-- A value may be made into another one. -/
theorem Work.Tells.map {α β : Type} {work : Work σ τ α} {notices : List Severity}
    {posts : List (List Json × String)} {u : α → Prop} {v : β → Prop} {f : α → β}
    (h : work.Tells notices posts u) (hv : ∀ a, u a → v (f a)) :
    (work >>= fun a => pure (f a)).Tells notices posts v := by
  refine Work.Asks.bind h ?_ ?_
  · rintro a first ⟨htold, hu⟩
    refine (Work.asks_pure _).mono ?_
    rintro rest result ⟨rfl, rfl⟩
    refine ⟨by simpa using htold, fun b hb => ?_⟩
    cases hb
    exact hv a (hu a rfl)
  · rintro halt events ⟨htold, -⟩
    exact ⟨htold, fun b hb => by cases hb⟩

namespace Relayer

/-! ### Giving up -/

theorem notifySafely_tells (r : Relayer σ) (severity : Severity) (title body : String) :
    (r.notifySafely severity title body : Work σ τ Unit).Asks fun events result =>
      Told events [] [severity] [] ∧ result = .ok () := by
  refine (r.notifySafely_asks severity title body).mono ?_
  rintro events result ⟨answer, rfl, rfl⟩
  exact ⟨.notified _ _ _ _, rfl⟩

theorem failInvalid_tells (r : Relayer σ) (item : WorkItem) (detail : String) :
    (r.failInvalid item detail : Work σ τ WorkItem).Tells [.error] []
      fun out => out = { item with status := .failed } := by
  refine Work.asks_log_bind (Work.Asks.bind (r.notifySafely_tells _ _ _) ?_ ?_)
  · rintro _ first ⟨htold, -⟩
    refine (Work.asks_pure _).mono ?_
    rintro rest result ⟨rfl, rfl⟩
    refine ⟨by simpa using htold, fun out h => ?_⟩
    cases h
    rfl
  · rintro halt events ⟨-, h⟩
    cases h

theorem tellHub_tells (r : Relayer σ) (item : WorkItem) (reason : CannotExecute) :
    (r.tellHub item reason : Work σ τ Unit).Asks fun events _ =>
      Told events [] [] (r.givenUpPosts item reason) := by
  cases hpayload : item.payload with
  | message m =>
    refine (r.tellHub_asks hpayload reason).mono ?_
    rintro events result ⟨answer, rfl⟩
    rw [givenUpPosts, hpayload]
    exact ⟨rfl, rfl, rfl⟩
  | _ =>
    rw [tellHub, givenUpPosts, hpayload]
    refine (Work.asks_pure ()).mono ?_
    rintro events result ⟨rfl, -⟩
    exact .nil

theorem failTerminal_tells (r : Relayer σ) (item : WorkItem) (reason : CannotExecute) :
    (r.failTerminal item reason : Work σ τ WorkItem).Tells [reason.severity]
      (r.givenUpPosts item reason) fun out => out = { item with status := .failed } := by
  refine Work.Asks.bind (r.reportGivenUp_asks item reason) ?_ ?_
  · rintro _ first ⟨told, rfl, -⟩
    have hfirst := Told.notified reason.severity "Message approved failed"
      (item.givenUpReport reason) told
    refine Work.Asks.bind (r.tellHub_tells item reason) ?_ ?_
    · rintro _ second hsecond
      refine (Work.asks_pure _).mono ?_
      rintro rest result ⟨rfl, rfl⟩
      refine ⟨by simpa using hfirst.append hsecond, fun out h => ?_⟩
      cases h
      rfl
    · rintro halt second hsecond
      exact ⟨hfirst.append hsecond, fun out h => by cases h⟩
  · rintro halt events ⟨told, -, h⟩
    cases h

end Relayer

/-! ### Deciding -/

/-- The reports of a turn that ended with a decision are those that are owed. -/
def Reported (r : Relayer σ) (item : WorkItem) (events : List Event) (d : Decision) : Prop :=
  ∃ kinds, Told events kinds (noticesOwed kinds d.fails) (r.postsOwed item kinds d.fails)

namespace Relayer

/-- The known kind of an outcome names it. -/
theorem ofOutcome_of_kind? {o : BuildOutcome} (h : o.kind? = some .insufficientBalance) :
    CannotExecute.ofOutcome o.kind = .insufficientGas := by
  rw [BuildOutcome.kind?] at h
  unfold BuildKind.ofWord? at h
  split at h <;> cases h
  rename_i hword
  rw [hword]
  rfl

/-- A build is reported by its outcome, if the item is not at the ceiling. -/
theorem decideByBuild_reported (r : Relayer σ) {item : WorkItem} (m : Message)
    (hpending : item.status = .pending) (hopeful : ceilingReached item.retry retryCeiling = false) :
    (r.decideByBuild item m : Work σ τ Decision).Asks fun events result =>
      ∀ d, result = .ok d → Reported r item events d := by
  rw [decideByBuild]
  refine Work.Asks.bind (Work.asks_ask _ _) ?_ ?_
  · rintro o first ⟨answer, rfl, hanswer⟩
    obtain rfl : .ok o = answer := Work.mapError_fault_injective hanswer
    -- what follows the answer reports what is owed for it
    have finish {next : Work σ τ Decision} {kind : BuildKind} {notices : List Severity}
        {posts : List (List Json × String)} (hkind : o.kind? = some kind)
        (hnext : next.Tells notices posts fun d => notices = noticesOwed [kind] d.fails ∧
          posts = r.postsOwed item [kind] d.fails) :
        next.Asks fun rest result => ∀ d, result = .ok d →
          Reported r item ([.built item (.ok o)] ++ rest) d := by
      have hbuilt : Told [.built item (.ok o)] [kind] [] [] :=
        ⟨by simp [Event.buildKind?, hkind], rfl, rfl⟩
      refine Work.Asks.mono hnext ?_
      rintro rest result ⟨htold, howed⟩ d hd
      obtain ⟨rfl, rfl⟩ := howed d hd
      exact ⟨[kind], hbuilt.append htold⟩
    have hstays : (item.status == Status.failed) = false := by
      rw [hpending]
      rfl
    cases hkind : o.kind? with
    | none =>
      refine (Work.asks_fail _).mono ?_
      rintro rest result ⟨-, rfl⟩ d hd
      cases hd
    | some kind =>
      cases kind with
      | built =>
        dsimp only
        cases htx : o.transaction with
        | none =>
          have hfails : (Decision.settle (advancedBy item m o)).fails = false := by
            rw [Decision.fails, BuildOutcome.advancedBy_status, hstays]
          refine finish hkind (Work.tells_pure ?_)
          rw [hfails]
          exact ⟨rfl, rfl⟩
        | some tx => exact finish hkind (Work.tells_pure ⟨rfl, rfl⟩)
      | recoverable =>
        have hfails : (Decision.settle
            { item with retry := item.retry + 1, txHash := none }).fails = false := hstays
        refine finish hkind (?_ : Work.Tells _ [.warn] [] _)
        refine Work.asks_log_bind (Work.Asks.bind (r.notifySafely_tells _ _ _) ?_ ?_)
        · rintro _ second ⟨hsecond, -⟩
          refine Work.Asks.bind (Work.asks_ask _ _) ?_ ?_
          · rintro _ third ⟨answer, rfl, -⟩
            refine (Work.asks_pure _).mono ?_
            rintro rest result ⟨rfl, rfl⟩
            refine ⟨hsecond.append (.invalidated item answer), fun d hd => ?_⟩
            cases hd
            rw [hfails]
            exact ⟨rfl, rfl⟩
          · rintro halt third ⟨answer, rfl, -⟩
            exact ⟨hsecond.append (.invalidated item answer), fun d hd => by cases hd⟩
        · rintro halt second ⟨-, h⟩
          cases h
      | insufficientBalance =>
        refine finish hkind ((r.failTerminal_tells item _).map ?_)
        rintro out rfl
        rw [ofOutcome_of_kind? hkind]
        exact ⟨rfl, rfl⟩
      | invalidPayload =>
        refine finish hkind ((r.failInvalid_tells item _).map ?_)
        rintro out rfl
        refine ⟨rfl, ?_⟩
        simp [postsOwed, Decision.fails, hopeful]
  · rintro halt events - d hd
    cases hd

/-- Fresh work on a message reports what is owed. -/
theorem decideFresh_reported (r : Relayer σ) {item : WorkItem} (hpending : item.status = .pending) :
    (r.decideFresh item : Work σ τ Decision).Asks fun events result =>
      ∀ d, result = .ok d → Reported r item events d := by
  -- an item that is failed without a build
  have unbuilt {work : Work σ τ WorkItem} {notices : List Severity}
      {posts : List (List Json × String)}
      (h : work.Tells notices posts fun out => out = { item with status := .failed })
      (hnotices : notices = [.error]) (hposts : posts = r.postsOwed item [] true) :
      (work >>= fun out => pure (.settle out)).Asks fun events result =>
        ∀ d, result = .ok d → Reported r item events d := by
    have hsettled := h.map (f := Decision.settle)
      (v := fun d => d = .settle { item with status := .failed }) fun out hout => by rw [hout]
    refine Work.Asks.mono hsettled fun events result ⟨htold, hd⟩ d hresult => ⟨[], ?_⟩
    rw [hd d hresult]
    subst hnotices hposts
    exact htold
  rw [decideFresh]
  split
  · rename_i hceiling
    exact unbuilt (r.failTerminal_tells item .error) rfl (by simp [postsOwed, hceiling])
  · rename_i hceiling
    have hopeful : ceilingReached item.retry retryCeiling = false := by simpa using hceiling
    have hnone : [] = r.postsOwed item [] true := by simp [postsOwed, hopeful]
    split
    · split
      · exact unbuilt (r.failInvalid_tells item _) rfl hnone
      · exact r.decideByBuild_reported _ hpending hopeful
    · exact unbuilt (r.failInvalid_tells item _) rfl hnone

/-- **The reports of a turn** are those that are owed for its item. -/
theorem decideMessage_reported (r : Relayer σ) {item : WorkItem} (hpending : item.status = .pending)
    (w : World σ τ) : ∃ events, w.Later (r.decideMessage item w).2 events ∧
      ∀ d, (r.decideMessage item w).1 = .ok d → Reported r item events d := by
  obtain ⟨events, hlater, hcourse⟩ :=
    r.decideMessage_course_of item (r.decideFresh_reported hpending) w
  refine ⟨events, hlater, fun d hd => ?_⟩
  rw [hd] at hcourse
  cases hcourse with
  | unsent _ hfresh => exact hfresh d rfl
  | left _ _ => exact ⟨[], .lookedUp _ _⟩
  | finished _ _ _ => exact ⟨[], .lookedUp _ _⟩
  | renewed _ _ hfresh =>
    obtain ⟨kinds, htold⟩ := hfresh d rfl
    exact ⟨kinds, (Told.lookedUp _ _).append htold⟩

end Relayer

/-! ### A batch -/

namespace Turn

/-- The kinds of outcome that were answered to builds in a turn. -/
def kinds {β : Type} (t : Turn σ τ β) : List BuildKind := t.events.filterMap Event.buildKind?

/-- Whether the item of a turn is failed. -/
def fails (t : Turn σ τ Decision) : Bool := t.value?.any Decision.fails

/-- What is owed for the item of a turn has been reported in the turn. -/
structure Informs (r : Relayer σ) (t : Turn σ τ Decision) : Prop where
  notices : t.events.filterMap Event.severity? = noticesOwed t.kinds t.fails
  posts : t.events.filterMap Event.post? = r.postsOwed t.item t.kinds t.fails

theorem fails_eq (t : Turn σ τ Decision) :
    t.fails = t.settled?.any fun out => out.status == .failed := by
  rw [fails, settled?]
  cases t.value? with
  | none => rfl
  | some d => cases d <;> rfl

end Turn

/-- A message that is failed is otherwise as it was claimed. -/
theorem MessageTurn.failed_eq {r : Relayer σ} {item out : WorkItem} {w : World σ τ}
    {events : List Event} (hpending : item.status = .pending)
    (h : MessageTurn r item w events (.ok (.settle out))) (hfailed : out.status = .failed) :
    out = { item with status := .failed } := by
  have hfresh {events : List Event} (h : MessageCourse item events (.ok (.settle out))) :
      out = { item with status := .failed } := by
    cases h with
    | givenUp _ _ decided => exact Decision.settle.inj (decided _ rfl)
    | built _ _ _ _ decided =>
      obtain ⟨o, -, hd⟩ := decided _ rfl
      rcases BuildOutcome.settle_cases hd with rfl | rfl | rfl
      · rw [BuildOutcome.advancedBy_status, hpending] at hfailed
        cases hfailed
      · cases hpending.symm.trans hfailed
      · rfl
  cases h with
  | unsent _ h => exact hfresh h
  | finished _ _ _ => cases hfailed
  | renewed _ _ h => exact hfresh h

/-- What a batch has reported that ended with `results`: what it owes, in the order of its items. -/
structure ReportLaw (r : Relayer σ) (items results : List WorkItem)
    (turns : List (Turn σ τ Decision)) (record : List Event) : Prop where
  /-- Every item has had its turn. -/
  order : turns.map Turn.item = items
  /-- The items that are returned as failed are those that were failed in their turns, -/
  failed : results.filter (fun out => out.status == .failed) =
    (turns.filter Turn.fails).map fun t => { t.item with status := .failed }
  /-- and nothing is built outside of the turns. -/
  built : record.filterMap Event.buildKind? = turns.flatMap Turn.kinds
  /-- The operators were notified of every failed item and of every build that is to be tried again,
  and of nothing else, -/
  notices : record.filterMap Event.severity? =
    turns.flatMap fun t => noticesOwed t.kinds t.fails
  /-- so often in all. -/
  counted : (record.filterMap Event.severity?).length =
    results.countP (fun out => out.status == .failed) +
      (record.filterMap Event.buildKind?).count .recoverable
  /-- The hub was told what it is owed, and nothing else. -/
  posts : record.filterMap Event.post? =
    turns.flatMap fun t => r.postsOwed t.item t.kinds t.fails

namespace Relayer

variable {r : Relayer σ} {ordered : Bool} {items results : List WorkItem} {w : World σ τ}

theorem informs_of_mem_messageTurns (hpending : ∀ item ∈ items, item.status = .pending)
    {t : Turn σ τ Decision} (ht : t ∈ r.messageTurns items w) {d : Decision}
    (hd : t.result = .ok d) : t.Informs r := by
  obtain ⟨events, hlater, hreported⟩ :=
    r.decideMessage_reported (hpending t.item (Work.item_mem_of_mem_turns ht)) t.before
  have hrun := Work.apply_of_mem_turns ht
  rw [hrun] at hlater hreported
  obtain ⟨kinds, htold⟩ := hreported d hd
  rw [← hlater.drop_trace] at htold
  have hfails : t.fails = d.fails := by
    rw [Turn.fails, Turn.value?_eq_some_iff.mpr hd, Option.any_some]
  have hkinds : t.kinds = kinds := htold.kinds
  rw [← hfails, ← hkinds] at htold
  exact ⟨htold.notices, htold.posts⟩

/-- The failed ones among the results are those of the turns that have failed them. -/
theorem failed_of_messageBatch (hpending : ∀ item ∈ items, item.status = .pending)
    (h : (r.messageBatch ordered items w).1 = .ok results) :
    results.filter (fun out => out.status == .failed) =
      ((r.messageTurns items w).filter Turn.fails).map fun t =>
        { t.item with status := .failed } := by
  obtain ⟨-, -, hresults, -⟩ := of_messageBatch h
  have hitem {t : Turn σ τ Decision} (ht : t ∈ r.messageTurns items w) :
      t.item.status = .pending := hpending t.item (Work.item_mem_of_mem_turns ht)
  have hsubmitted : ((r.submissions ordered items w).map fun s => s.1.outcome s.2).filter
      (fun out => out.status == .failed) = [] := by
    refine List.filter_eq_nil_iff.mpr fun out hout => ?_
    obtain ⟨s, hs, rfl⟩ := List.mem_map.mp hout
    obtain ⟨t, ht, ha, -⟩ := turn_of_mem_submissions hs
    obtain ⟨txHash, retry, houtcome⟩ := s.1.outcome_eq s.2
    have hstatus : s.1.advanced.status = .pending :=
      (attempt_of_mem_messageTurns ht ha).2.2.1.trans (hitem ht)
    rw [houtcome, hstatus]
    exact Bool.false_ne_true
  rw [hresults, List.filter_append, hsubmitted, List.append_nil, List.filter_filterMap,
    ← List.filterMap_eq_map, List.filterMap_filter]
  refine List.filterMap_congr fun t ht => ?_
  rw [Turn.fails_eq]
  cases hsettled : t.settled? with
  | none => rfl
  | some out =>
    have hcourse := course_of_mem_messageTurns ht
    rw [Turn.settled?_eq_some_iff.mp hsettled] at hcourse
    rw [Option.filter_some, Option.any_some]
    cases hfailed : out.status == Status.failed with
    | false => rfl
    | true =>
      rw [hcourse.failed_eq (hitem ht) (eq_of_beq hfailed)]
      rfl

/-- As many notifications are owed as items are failed and builds are to be tried again. -/
theorem length_noticesOwed (turns : List (Turn σ τ Decision)) :
    (turns.flatMap fun t => noticesOwed t.kinds t.fails).length =
      (turns.filter Turn.fails).length + (turns.flatMap Turn.kinds).count .recoverable := by
  induction turns with
  | nil => rfl
  | cons t rest ih =>
    have hhead : (noticesOwed t.kinds t.fails).length =
        t.kinds.count .recoverable + if t.fails then 1 else 0 := by
      rw [noticesOwed, List.length_append, List.length_map, List.count,
        List.countP_eq_length_filter]
      cases t.fails <;> rfl
    rw [List.flatMap_cons, List.flatMap_cons, List.length_append, List.count_append, ih, hhead,
      List.filter_cons]
    cases t.fails
    · simp only [Bool.false_eq_true, if_false]
      omega
    · simp only [if_true, List.length_cons]
      omega

/-- **The reports of a batch** that ends with results are those that it owes. -/
theorem messageBatch_reported (hpending : ∀ item ∈ items, item.status = .pending)
    (h : (r.messageBatch ordered items w).1 = .ok results) :
    ReportLaw r items results (r.messageTurns items w)
      ((r.messageBatch ordered items w).2.trace.drop w.trace.length) := by
  obtain ⟨horder, hvalues, -, -⟩ := of_messageBatch h
  have hfailed := failed_of_messageBatch hpending h
  have hinforms : ∀ t ∈ r.messageTurns items w, t.Informs r := fun t ht =>
    (hvalues t ht).elim fun d hd => informs_of_mem_messageTurns hpending ht hd
  rw [(r.messageBatch_later ordered items w).drop_trace]
  -- nothing is built or reported in the second pass
  have hsends {γ : Type} {f : Event → Option γ} (hf : ∀ a d, f (Attempt.delivered a d) = none) :
      ((r.messageTurns items w).flatMap Turn.events ++ (r.submissions ordered items w).map
        fun s => s.1.delivered s.2).filterMap f =
          (r.messageTurns items w).flatMap fun t => t.events.filterMap f := by
    have hnil : ((r.submissions ordered items w).map fun s => s.1.delivered s.2).filterMap f =
        [] := by
      refine List.filterMap_eq_nil_iff.mpr fun e he => ?_
      obtain ⟨s, -, rfl⟩ := List.mem_map.mp he
      exact hf s.1 s.2
    rw [List.filterMap_append, hnil, List.append_nil, List.filterMap_flatMap]
  have hbuilt := hsends (f := Event.buildKind?) fun _ _ => rfl
  have hnotices := (hsends (f := Event.severity?) fun _ _ => rfl).trans
    (List.flatMap_congr fun t ht => (hinforms t ht).notices)
  refine ⟨horder, hfailed, hbuilt, hnotices, ?_, ?_⟩
  · rw [hnotices, hbuilt, length_noticesOwed, List.countP_eq_length_filter, hfailed,
      List.length_map]
    rfl
  · exact (hsends (f := Event.post?) fun _ _ => rfl).trans
      (List.flatMap_congr fun t ht => (hinforms t ht).posts)

end Relayer

end ChainRelay
