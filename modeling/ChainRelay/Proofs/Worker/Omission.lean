import ChainRelay.Proofs.Worker.AcceptedSends
import ChainRelay.Proofs.Worker.Acknowledgement
import ChainRelay.Proofs.Worker.Independence
import ChainRelay.Proofs.Worker.OutboundCourse

/-!
# Items that are left out

A collaborator that fails while an item is worked on costs one warning, and the item is left for a
later batch. The failure may be met at any point: it ends the work on the item there, and nothing
that was done before is taken back.

## The contract

What counts as a failure is read off the record: a fault of a collaborator in answer to any question
but a notification, a transaction that was not accepted, or results of a post that do not settle all
of its events. For outbound transactions a lookup that fails does not count, as it only means that
nothing is known of the transaction.

## Main definitions

* `Event.Breaks` — a failing collaborator was met
* `Work.Heeds` — work that is ended by the failing collaborators that it meets
* `Omits` — what a failing collaborator costs a batch

## Main results

* `Relayer.advanceOutbound_heeds`, `Relayer.relayEvents_heeds` — every failure ends the work
* `Itemwise.of_omitted` — the rest of a batch goes on as if the item were not in it
* `Relayer.batches_itemwise` — both workers, batch by batch and failure by failure
-/

namespace ChainRelay

variable {σ τ α β : Type}

/-! ### Failing collaborators -/

namespace Event

/-- The fault with which a question was answered. A notification is no question. -/
def fault? : Event → Option Fault
  | lookedUp _ (.error fault) | balanceRead _ (.error fault) | eventsRead _ _ _ (.error fault)
  | tasksRead _ _ (.error fault) | posted _ _ (.error fault) | broadcast _ _ (.error fault)
  | statusRead _ _ (.error fault) | built _ (.error fault) | sent _ (.error fault)
  | invalidated _ (.error fault) | decoded _ (.error fault) => some fault
  | _ => none

/-- An answer that refuses what was asked for: a transaction is not accepted, or results do not
settle all the events that were posted. -/
def Refuses : Event → Prop
  | sent _ (.ok result) => result.success = false
  | posted events _ (.ok results) => (∀ event ∈ events, ∃ fields, event = .obj fields) ∧
      ¬ (results.length = events.length ∧ ∀ result ∈ results, result.Settles)
  | _ => False

/-- A failing collaborator was met. -/
def Breaks (e : Event) : Prop :=
  (∃ fault, e.fault? = some fault ∧ fault.isDependency = true) ∨ e.Refuses

/-- A fault is a failure only if a collaborator has failed. -/
theorem Breaks.isDependency {e : Event} {fault : Fault} (h : e.Breaks)
    (hfault : e.fault? = some fault) : fault.isDependency = true := by
  rcases h with ⟨fault', h, hdependency⟩ | h
  · cases hfault.symm.trans h
    exact hdependency
  · -- an answer that refuses is no fault
    unfold Refuses at h
    split at h
    · cases hfault
    · cases hfault
    · cases h

theorem not_breaks_notified {severity : Severity} {title body : String}
    {answer : Except Fault Unit} : ¬ (notified severity title body answer).Breaks := by
  rintro (⟨fault, h, -⟩ | h)
  · cases h
  · cases h

end Event

namespace Work

/-- Work that is ended by a failing collaborator if it meets one, as `p` says. -/
def Heeds (p : Event → Prop) (work : Work σ τ α) : Prop :=
  work.Asks fun events result => (∃ e ∈ events, p e) → ByCollaborator result

variable {p : Event → Prop} {work : Work σ τ α} {next : α → Work σ τ β} {v : α → Prop}

/-- Work that meets nothing of the kind. -/
theorem Yields.heeds (h : work.Yields (fun e => ¬ p e) v) : work.Heeds p :=
  Asks.mono h fun _ _ ⟨hevents, _⟩ ⟨e, he, hp⟩ => absurd hp (hevents e he)

theorem heeds_pure (a : α) : (pure a : Work σ τ α).Heeds p :=
  Yields.heeds (v := fun _ => True) (yields_pure trivial)

theorem heeds_fail (fault : Fault) : (fail fault : Work σ τ α).Heeds p :=
  Yields.heeds (v := fun _ => True) (yields_fail fault)

theorem heeds_log (line : LogLine) : (log line : Work σ τ Unit).Heeds p :=
  (yields_log line).heeds

/-- A question is heeded if only its faults count. -/
theorem heeds_ask {answers : Answers σ α} {event : Except Fault α → Event}
    (h : ∀ answer, p (event answer) → ∃ fault, fault.isDependency = true ∧ answer = .error fault) :
    (ask answers event : Work σ τ α).Heeds p := by
  refine (asks_ask answers event).mono ?_
  rintro events result ⟨answer, rfl, rfl⟩ ⟨e, he, hp⟩
  rw [List.mem_singleton.mp he] at hp
  obtain ⟨fault, hdependency, rfl⟩ := h answer hp
  exact ⟨fault, hdependency, rfl⟩

/-- A question whose answer, unless it is a fault, is heeded by what follows. -/
theorem heeds_ask_bind {answers : Answers σ α} {event : Except Fault α → Event}
    (herror : ∀ fault, p (event (.error fault)) → fault.isDependency = true)
    (hnext : ∀ a, (next a).Asks fun rest result =>
      (∃ e ∈ event (.ok a) :: rest, p e) → ByCollaborator result) :
    (ask answers event >>= next).Heeds p := by
  refine Asks.bind (asks_ask answers event) ?_ ?_
  · rintro a first ⟨answer, rfl, hanswer⟩
    obtain rfl : .ok a = answer := mapError_fault_injective hanswer
    exact hnext a
  · rintro halt events ⟨answer, rfl, hanswer⟩ ⟨e, he, hp⟩
    rw [List.mem_singleton.mp he] at hp
    cases answer with
    | ok a => cases hanswer
    | error fault =>
      cases hanswer
      exact ⟨fault, herror fault hp, rfl⟩

/-- After a part that has ended normally, and so has met nothing, the rest decides. -/
theorem Heeds.bind (h : work.Heeds p) (hnext : ∀ a, (next a).Heeds p) :
    (work >>= next).Heeds p := by
  refine Asks.bind h ?_ ?_
  · rintro a first hfirst
    refine (hnext a).mono ?_
    rintro rest result hrest ⟨e, he, hp⟩
    rcases List.mem_append.mp he with he | he
    · obtain ⟨fault, -, h⟩ := hfirst ⟨e, he, hp⟩
      cases h
    · exact hrest ⟨e, he, hp⟩
  · rintro halt events hevents hmet
    obtain ⟨fault, hdependency, h⟩ := hevents hmet
    cases h
    exact ⟨fault, hdependency, rfl⟩

end Work

/-! ### Outbound transactions -/

/-- The failures that count for an outbound item. -/
def Event.BreaksOutbound (e : Event) : Prop := e.Breaks ∧ e.isLookup = false

namespace Relayer

/-- Only faults count among the answers to most questions. -/
theorem exists_fault_of_breaks {event : Except Fault α → Event}
    (hok : ∀ a, (event (.ok a)).fault? = none ∧ ¬ (event (.ok a)).Refuses)
    (herror : ∀ fault, (event (.error fault)).fault? = some fault) (answer : Except Fault α)
    (h : (event answer).Breaks) : ∃ fault, fault.isDependency = true ∧ answer = .error fault := by
  cases answer with
  | ok a =>
    rcases h with ⟨fault, h, -⟩ | h
    · cases (hok a).1.symm.trans h
    · exact absurd h (hok a).2
  | error fault => exact ⟨fault, h.isDependency (herror fault), rfl⟩

theorem failOutbound_heeds (r : Relayer σ) (item : WorkItem) (reason : String) :
    (r.failOutbound item reason : Work σ τ WorkItem).Heeds Event.BreaksOutbound :=
  (Work.heeds_log _).bind fun _ =>
    (r.notifySafely_yields_of _ _ _ fun _ h => Event.not_breaks_notified h.1).heeds.bind
      fun _ => Work.heeds_pure _

theorem outboundObstacle_heeds (r : Relayer σ) (item : WorkItem) :
    (r.outboundObstacle item : Work σ τ (Option String)).Heeds Event.BreaksOutbound := by
  rw [outboundObstacle]
  split
  · exact Work.heeds_pure _
  · rw [refundObstacle]
    split
    · exact Work.heeds_pure _
    · refine Work.Heeds.bind (Work.heeds_ask fun answer h => ?_) fun balance => ?_
      · exact exists_fault_of_breaks (fun _ => ⟨rfl, id⟩) (fun _ => rfl) answer h.1
      · split
        · exact Work.heeds_fail _
        · split <;> exact Work.heeds_pure _
  · exact Work.heeds_pure _

/-- A transaction that is not accepted is a failure of the executor. -/
theorem sendBuilt_heeds (r : Relayer σ) (item : WorkItem) (transaction : SignedTransaction) :
    (r.sendBuilt item transaction : Work σ τ WorkItem).Heeds Event.BreaksOutbound := by
  rw [sendBuilt]
  refine Work.heeds_ask_bind (fun fault h => h.1.isDependency rfl) fun result => ?_
  cases hsuccess : result.success with
  | true =>
    rw [if_pos rfl]
    refine Work.asks_log_bind ((Work.asks_pure _).mono ?_)
    rintro rest ending ⟨rfl, rfl⟩ ⟨e, he, (⟨fault, h, -⟩ | h), -⟩
    · rw [List.mem_singleton.mp he] at h
      cases h
    · rw [List.mem_singleton.mp he] at h
      cases hsuccess.symm.trans h
  | false =>
    rw [if_neg Bool.false_ne_true]
    refine (Work.asks_fail _).mono ?_
    rintro rest ending ⟨-, rfl⟩ -
    exact ⟨_, rfl, rfl⟩

theorem buildOutbound_heeds (r : Relayer σ) (item : WorkItem) :
    (r.buildOutbound item : Work σ τ WorkItem).Heeds Event.BreaksOutbound := by
  rw [buildOutbound]
  refine Work.Heeds.bind (Work.heeds_ask fun answer h =>
    exists_fault_of_breaks (fun _ => ⟨rfl, id⟩) (fun _ => rfl) answer h.1) fun outcome => ?_
  cases outcome.kind? with
  | none => exact Work.heeds_fail _
  | some kind =>
    cases kind with
    | built =>
      cases outcome.transaction with
      | none => exact Work.heeds_fail _
      | some transaction => exact r.sendBuilt_heeds item transaction
    | recoverable =>
      refine (Work.heeds_log _).bind fun _ => ?_
      exact Work.Heeds.bind (Work.heeds_ask fun answer h =>
        exists_fault_of_breaks (fun _ => ⟨rfl, id⟩) (fun _ => rfl) answer h.1)
          fun _ => Work.heeds_pure _
    | insufficientBalance => exact r.failOutbound_heeds item _
    | invalidPayload => exact r.failOutbound_heeds item _

theorem outboundFresh_heeds (r : Relayer σ) (item : WorkItem) :
    (r.outboundFresh item : Work σ τ (Option WorkItem)).Heeds Event.BreaksOutbound := by
  rw [outboundFresh]
  split
  · exact (r.failOutbound_heeds item _).bind fun _ => Work.heeds_pure _
  · refine Work.Heeds.bind ?_ fun _ => Work.heeds_pure _
    refine (r.outboundObstacle_heeds item).bind fun obstacle => ?_
    cases obstacle with
    | none => exact r.buildOutbound_heeds item
    | some reason => exact r.failOutbound_heeds item reason

/-- **A failing collaborator** that an outbound item meets ends the work on it. -/
theorem advanceOutbound_heeds (r : Relayer σ) (item : WorkItem) :
    (r.advanceOutbound item : Work σ τ (Option WorkItem)).Heeds Event.BreaksOutbound := by
  intro w
  obtain ⟨events, later, course⟩ := r.advanceOutbound_course_of item (r.outboundFresh_heeds item) w
  refine ⟨events, later, ?_⟩
  have hlookup (txHash : String) (answer : Except Fault (Option ChainTransaction)) :
      ¬ (Event.lookedUp txHash answer).BreaksOutbound := by
    rintro ⟨-, h⟩
    cases h
  generalize (r.advanceOutbound item w).1 = result at course ⊢
  cases course with
  | unsent _ hfresh => exact hfresh
  | left _ _ =>
    rintro ⟨e, he, hp⟩
    exact absurd (List.mem_singleton.mp he ▸ hp) (hlookup _ _)
  | finished _ _ _ =>
    rintro ⟨e, he, hp⟩
    exact absurd (List.mem_singleton.mp he ▸ hp) (hlookup _ _)
  | renewed _ _ hfresh =>
    rintro ⟨e, he, hp⟩
    rcases List.mem_cons.mp he with rfl | he
    · exact absurd hp (hlookup _ _)
    · exact hfresh ⟨e, he, hp⟩

/-! ### Transactions of the chain -/

/-- A post that is refused, or that a failing hub does not answer, ends the publication. -/
theorem publish_heeds (r : Relayer σ) (events : List Json) (correlation : String) (tell : Bool) :
    (r.publish events correlation tell : Work σ τ Unit).Heeds Event.Breaks := by
  rw [publish]
  split
  · exact Work.heeds_pure ()
  · refine Work.heeds_ask_bind (fun fault h => h.isDependency rfl) fun results => ?_
    split
    · refine (Work.asks_fail _).mono ?_
      rintro rest ending ⟨-, rfl⟩ -
      exact ⟨_, rfl, rfl⟩
    · rename_i hcounted
      have hreview : (r.reviewResults events correlation tell results : Work σ τ Unit).Yields
          (fun e => ¬ e.Breaks) fun _ => True :=
        r.reviewResults_yields_of _ _ _ fun _ _ _ _ _ => Event.not_breaks_notified
      intro w
      obtain ⟨reports, later, hreports, -⟩ := hreview w
      refine ⟨reports, later, ?_⟩
      rintro ⟨e, he, hbreaks⟩
      rcases List.mem_cons.mp he with rfl | he
      · rcases hbreaks with ⟨fault, h, -⟩ | ⟨hobjects, hunsettled⟩
        · cases h
        · refine (r.reviewResults_contained hobjects correlation tell results w).resolve_left ?_
          intro hok
          refine hunsettled ⟨not_not.mp hcounted, fun result hresult => ?_⟩
          exact ((r.reviewResults_always events correlation tell results w).mp hok
            result hresult).1
      · exact absurd hbreaks (hreports e he)

/-- **A failing collaborator** that is met while a transaction is relayed ends the work on it. -/
theorem relayEvents_heeds (r : Relayer σ) (item : WorkItem) :
    (r.relayEvents item : Work σ τ (Option WorkItem)).Heeds Event.Breaks := by
  rw [relayEvents]
  refine Work.Heeds.bind (Work.heeds_ask
    (exists_fault_of_breaks (fun _ => ⟨rfl, id⟩) fun _ => rfl)) fun sighted => ?_
  cases sighted with
  | none => exact Work.heeds_pure _
  | some transaction =>
    cases hstatus : transaction.status with
    | pending =>
      dsimp only
      rw [hstatus]
      exact Work.heeds_pure _
    | success =>
      dsimp only
      rw [hstatus]
      refine Work.Heeds.bind (Work.heeds_ask
        (exists_fault_of_breaks (fun _ => ⟨rfl, id⟩) fun _ => rfl)) fun events => ?_
      exact (r.publish_heeds _ _ _).bind fun _ =>
        (Work.heeds_log _).bind fun _ => Work.heeds_pure _
    | failed =>
      dsimp only
      rw [hstatus]
      exact (Work.heeds_log _).bind fun _ => Work.heeds_pure _

end Relayer

/-! ### What a failure costs -/

/-- What a failing collaborator costs a batch in which items are worked on by `advance`: one warning
beyond what was recorded before, and the item in question. `p` says what counts as a failure. -/
structure Omits (p : Event → Prop) (advance : WorkItem → Work σ τ (Option WorkItem))
    (batch : List WorkItem → Work σ τ (List WorkItem)) (title : String) (body : WorkItem → String)
    (w : World σ τ) : Prop where
  /-- Whatever failure is met, it ends the work on the item. -/
  met : ∀ item, (∃ e ∈ (advance item).recordOf w, p e) → ByCollaborator (advance item w).1
  /-- It costs one warning, and there is no result. -/
  costs : ∀ item, ByCollaborator (advance item w).1 → (batch [item] w).1 = .ok [] ∧
    ∃ answer, (batch [item]).recordOf w =
      (advance item).recordOf w ++ [.notified .warn title (body item) answer]
  /-- The items before and after it come to the same results as if it were not in the batch, -/
  others : ∀ before item after, ByCollaborator (advance item w).1 →
    (batch (before ++ item :: after) w).1 = (batch (before ++ after) w).1
  /-- and with the same records. -/
  record : ∀ before item after results, ByCollaborator (advance item w).1 →
    (batch (before ++ after) w).1 = .ok results →
    ∃ answer, (batch (before ++ item :: after)).recordOf w = (batch before).recordOf w ++
      ((advance item).recordOf w ++ [.notified .warn title (body item) answer]) ++
        (batch after).recordOf w

/-- A member without results adds nothing to a sequence. -/
theorem mapM_flatten_append_cons {γ ε : Type} {f : γ → Except ε (List α)} {item : γ}
    (h : f item = .ok []) (before after : List γ) :
    ((before ++ item :: after).mapM f).map List.flatten =
      ((before ++ after).mapM f).map List.flatten := by
  induction before with
  | nil =>
    rw [List.nil_append, List.nil_append, map_flatten_mapM_cons, h]
    cases after.mapM f <;> rfl
  | cons first rest ih =>
    rw [List.cons_append, List.cons_append, map_flatten_mapM_cons, map_flatten_mapM_cons, ih]

namespace Itemwise

variable {batch : List WorkItem → Work σ τ (List WorkItem)} {w : World σ τ}
  {before after items results : List WorkItem} {item : WorkItem}

/-- An item without results may as well not be in the batch. -/
theorem of_omitted (h : Itemwise batch w) (hitem : (batch [item] w).1 = .ok []) :
    (batch (before ++ item :: after) w).1 = (batch (before ++ after) w).1 := by
  rw [h.ends, h.ends]
  exact mapM_flatten_append_cons (f := fun item => (batch [item] w).1) hitem before after

/-- A part of a batch that ends with results does so too. -/
theorem exists_results (h : Itemwise batch w) (hitems : (batch items w).1 = .ok results)
    {part : List WorkItem} (hpart : part ⊆ items) : ∃ out, (batch part w).1 = .ok out := by
  cases hrun : (batch part w).1 with
  | ok out => exact ⟨out, rfl⟩
  | error halt =>
    obtain ⟨item, hitem, halt', herror⟩ := (h.raises part).mp ⟨halt, hrun⟩
    obtain ⟨halt'', h''⟩ := (h.raises items).mpr ⟨item, hpart hitem, halt', herror⟩
    cases hitems.symm.trans h''

/-- The record of a batch is that of its parts. -/
theorem record_append_cons (h : Itemwise batch w)
    (hitems : (batch (before ++ item :: after) w).1 = .ok results) :
    (batch (before ++ item :: after)).recordOf w = (batch before).recordOf w ++
      (batch [item]).recordOf w ++ (batch after).recordOf w := by
  have hafter : after ⊆ before ++ item :: after := fun _ hmem =>
    List.mem_append_right before (List.mem_cons_of_mem item hmem)
  obtain ⟨first, hfirst⟩ := h.exists_results hitems (List.subset_append_left before _)
  obtain ⟨last, hlast⟩ := h.exists_results hitems hafter
  rw [h.record _ _ hitems, h.record _ _ hfirst, h.record _ _ hlast, List.flatMap_append,
    List.flatMap_cons, List.append_assoc]

/-- What a failure costs a batch that is made of its items, if it costs a single item this. -/
theorem omits (h : Itemwise batch w) {p : Event → Prop}
    {advance : WorkItem → Work σ τ (Option WorkItem)} {title : String} {body : WorkItem → String}
    (hheeds : ∀ item, (advance item).Heeds p)
    (hcosts : ∀ item, ByCollaborator (advance item w).1 → (batch [item] w).1 = .ok [] ∧
      ∃ answer, (batch [item]).recordOf w =
        (advance item).recordOf w ++ [.notified .warn title (body item) answer]) :
    Omits p advance batch title body w where
  met item hmet := by
    obtain ⟨events, later, hends⟩ := hheeds item w
    have hrecord : (advance item).recordOf w = events := later.drop_trace
    exact hends (hrecord ▸ hmet)
  costs := hcosts
  others before item after hbroken := h.of_omitted (hcosts item hbroken).1
  record before item after results hbroken hok := by
    obtain ⟨hnone, answer, hrecord⟩ := hcosts item hbroken
    refine ⟨answer, ?_⟩
    rw [h.record_append_cons ((h.of_omitted hnone).trans hok), hrecord]

end Itemwise

namespace Relayer

variable (r : Relayer σ) {w : World σ τ}

/-- Work that was ended by a failing collaborator is kept from ending the batch: there is a warning
and no result. -/
theorem warn_of_broken {work : Work σ τ (Option WorkItem)} (h : ByCollaborator (work w).1)
    {events : List Event} (later : w.Later (work w).2 events) (line : Fault → LogLine)
    (title body : String) {whole : Work σ τ (Option WorkItem)}
    (hwhole : whole = Work.attempt work >>= fun
      | .ok result => pure result
      | .error fault =>
        if fault.isDependency then do
          Work.log (line fault)
          r.notifySafely .warn title body
          return none
        else Work.fail fault) :
    (whole w).1 = .ok none ∧ ∃ answer,
      whole.recordOf w = work.recordOf w ++ [.notified .warn title body answer] := by
  obtain ⟨fault, hdependency, hfault⟩ := h
  have hrun : work w = (.error (.fault fault), (work w).2) := Prod.ext hfault rfl
  obtain ⟨w', answer, hwarned, later'⟩ :=
    r.report_apply (line fault) .warn title body (none : Option WorkItem) (work w).2
  have hends : whole w = (.ok none, w') := by
    rw [hwhole, Work.bind_apply_of_ok (Work.attempt_apply_of_fault hrun)]
    dsimp only
    rw [if_pos hdependency]
    exact hwarned
  rw [Work.recordOf, Work.recordOf, hends, later.drop_trace]
  exact ⟨rfl, answer, (later.trans later').drop_trace⟩

/-- What operators are told of an outbound item that was left out. -/
def outboundWarning (item : WorkItem) : String :=
  "An error occurred while processing StacksTransaction with id " ++ item.key ++ ". Will be retried"

/-- What operators are told of a transaction of the chain that was left out. -/
def crossChainWarning (item : WorkItem) : String :=
  "An error occurred while processing cross chain transaction " ++ item.key ++ ". Will be retried"

theorem outboundItem_of_broken {item : WorkItem}
    (h : ByCollaborator (r.advanceOutbound item w).1) : (r.outboundItem item w).1 = .ok none ∧
      ∃ answer, (r.outboundItem item).recordOf w = (r.advanceOutbound item).recordOf w ++
        [.notified .warn "Stacks transaction processing error" (outboundWarning item) answer] := by
  obtain ⟨events, later, -⟩ := r.advanceOutbound_course item w
  exact r.warn_of_broken h later _ _ _ rfl

theorem crossChainItem_of_broken {item : WorkItem}
    (h : ByCollaborator (r.relayEvents item w).1) : (r.crossChainItem item w).1 = .ok none ∧
      ∃ answer, (r.crossChainItem item).recordOf w = (r.relayEvents item).recordOf w ++
        [.notified .warn "Cross chain transaction processing error" (crossChainWarning item)
          answer] := by
  obtain ⟨events, later, -⟩ := r.relayEvents_asks item w
  exact r.warn_of_broken h later _ _ _ rfl

variable {r}

theorem outboundBatch_omits (hsteady : r.collaborators.Steady) (hw : w.Still) :
    Omits Event.BreaksOutbound r.advanceOutbound r.outboundBatch
      "Stacks transaction processing error" outboundWarning w := by
  refine (outboundBatch_itemwise hsteady hw).omits r.advanceOutbound_heeds fun item hbroken => ?_
  obtain ⟨hnone, answer, hrecord⟩ := r.outboundItem_of_broken hbroken
  obtain ⟨hok, hsame⟩ := Itemwise.apply_singleton_of_none (outboundItem_independent hsteady)
    r.outboundBatch_apply hw hnone
  exact ⟨hok, answer, hsame.trans hrecord⟩

theorem crossChainBatch_omits (hsteady : r.collaborators.Steady) (hw : w.Still) :
    Omits Event.Breaks r.relayEvents r.crossChainBatch
      "Cross chain transaction processing error" crossChainWarning w := by
  refine (crossChainBatch_itemwise hsteady hw).omits r.relayEvents_heeds fun item hbroken => ?_
  obtain ⟨hnone, answer, hrecord⟩ := r.crossChainItem_of_broken hbroken
  obtain ⟨hok, hsame⟩ := Itemwise.apply_singleton_of_none (crossChainItem_independent hsteady)
    r.crossChainBatch_apply hw hnone
  exact ⟨hok, answer, hsame.trans hrecord⟩

/-- **Items of a batch are independent.** If collaborators answer by the question alone and the
clock stands still, batches of both workers are put together from those of their single items, and a
failing collaborator costs one warning and the item for which it was met. -/
theorem batches_itemwise (hsteady : r.collaborators.Steady) (hw : w.Still) :
    (Itemwise r.outboundBatch w ∧ Omits Event.BreaksOutbound r.advanceOutbound r.outboundBatch
      "Stacks transaction processing error" outboundWarning w) ∧
    Itemwise r.crossChainBatch w ∧ Omits Event.Breaks r.relayEvents r.crossChainBatch
      "Cross chain transaction processing error" crossChainWarning w :=
  ⟨⟨outboundBatch_itemwise hsteady hw, outboundBatch_omits hsteady hw⟩,
    crossChainBatch_itemwise hsteady hw, crossChainBatch_omits hsteady hw⟩

end Relayer

/-! ### Collaborators that never change -/

/-- Collaborators that always answer as they would in this state. -/
def Answers.fixedAt (answers : Answers σ α) (s : σ) : Answers Unit α := fun _ => ((answers s).1, ())

/-- Collaborators that always answer as these would in this state. -/
def Collaborators.fixedAt (c : Collaborators σ) (s : σ) : Collaborators Unit where
  chain := {
    transaction := fun hash => (c.chain.transaction hash).fixedAt s
    balance := fun account => (c.chain.balance account).fixedAt s
    events := fun contract offset limit => (c.chain.events contract offset limit).fixedAt s }
  hub := {
    tasks := fun chain after limit => (c.hub.tasks chain after limit).fixedAt s
    post := fun events correlation => (c.hub.post events correlation).fixedAt s
    broadcast := fun request contract => (c.hub.broadcast request contract).fixedAt s
    status := fun broadcast contract => (c.hub.status broadcast contract).fixedAt s }
  messages := {
    build := fun item => (c.messages.build item).fixedAt s
    send := fun tx => (c.messages.send tx).fixedAt s
    invalidate := fun item => (c.messages.invalidate item).fixedAt s }
  outbound := {
    build := fun item => (c.outbound.build item).fixedAt s
    send := fun tx => (c.outbound.send tx).fixedAt s
    invalidate := fun item => (c.outbound.invalidate item).fixedAt s }
  decode := fun tx => (c.decode tx).fixedAt s
  notify := fun severity title body => (c.notify severity title body).fixedAt s

theorem Collaborators.fixedAt_steady (c : Collaborators σ) (s : σ) : (c.fixedAt s).Steady where
  transaction _ _ _ := rfl
  balance _ _ _ := rfl
  post _ _ _ _ := rfl
  build _ _ _ := rfl
  send _ _ _ := rfl
  invalidate _ _ _ := rfl
  decode _ _ _ := rfl
  notify _ _ _ _ _ := rfl

/-- An executor that fails on the second of three tasks. -/
def faultySigner : Simulation where
  buildFaults := [("task-2", .dependency "signer unavailable")]

namespace Relayer

/-- A relayer with this executor, whatever happens. -/
def faultyRelayer : Relayer Unit where
  collaborators := Simulation.collaborators.fixedAt faultySigner
  settings := {}
  services := ⟨"hub-token-service", "token-service"⟩

/-- Of three tasks the second one costs a warning, and the first and the third are sent. -/
theorem batches_itemwise_faulty :
    let w : World Unit Unit := World.initial () ()
    faultyRelayer.collaborators.Steady ∧ w.Still ∧
    Itemwise faultyRelayer.outboundBatch w ∧
    (faultyRelayer.outboundBatch [.shortGateway "task-1", .shortGateway "task-2",
        .shortGateway "task-3"] w).1 =
      (faultyRelayer.outboundBatch [.shortGateway "task-1", .shortGateway "task-3"] w).1 ∧
    (faultyRelayer.outboundBatch [.shortGateway "task-2"] w).1 = .ok [] := by
  intro w
  have hsteady : faultyRelayer.collaborators.Steady :=
    Simulation.collaborators.fixedAt_steady faultySigner
  have hstill : w.Still := fun _ _ => rfl
  obtain ⟨⟨hitemwise, homits⟩, -⟩ := batches_itemwise hsteady hstill
  have hbroken : ByCollaborator
      (faultyRelayer.advanceOutbound (.shortGateway "task-2") w).1 := ⟨_, rfl, rfl⟩
  exact ⟨hsteady, hstill, hitemwise,
    homits.others [.shortGateway "task-1"] _ [.shortGateway "task-3"] hbroken,
    (homits.costs _ hbroken).1⟩

end Relayer

end ChainRelay
