import ChainRelay.Proofs.World.Likeness
import ChainRelay.Worker.CrossChain
import ChainRelay.Worker.Outbound

/-!
# Items that do not depend on each other

Outbound transactions and transactions of the chain are worked off one by one, and nothing is handed
on from one item to the next but the world. If collaborators answer by the question alone, a batch
is therefore no more than its items: what it returns and what it records is put together from the
batches of its single items.

## The contract

Collaborators may answer with values or faults, but the same question always has the same answer,
and the clock stands still. What they do to their state is of no interest then, and neither is what
was recorded before.

## Main definitions

* `Collaborators.Steady`, `World.Still` — answers and clocks that do not depend on the state
* `Work.Independent` — work that goes the same way in all worlds with the same time
* `Itemwise` — a batch that is put together from the batches of its items

## Main results

* `Relayer.outboundItem_independent`, `Relayer.crossChainItem_independent` — single items
* `Itemwise.of_independent` — from single items to batches
-/

namespace ChainRelay

variable {σ τ α β : Type}

/-! ### Independent work -/

/-- Answers that depend on nothing but the question. -/
def Answers.Steady (answers : Answers σ α) : Prop := ∀ s s', (answers s).1 = (answers s').1

/-- Collaborators of which each question always has the same answer. -/
structure Collaborators.Steady (c : Collaborators σ) : Prop where
  transaction : ∀ hash, (c.chain.transaction hash).Steady
  balance : ∀ account, (c.chain.balance account).Steady
  post : ∀ events correlation, (c.hub.post events correlation).Steady
  build : ∀ item, (c.outbound.build item).Steady
  send : ∀ transaction, (c.outbound.send transaction).Steady
  invalidate : ∀ item, (c.outbound.invalidate item).Steady
  decode : ∀ transaction, (c.decode transaction).Steady
  notify : ∀ severity title body, (c.notify severity title body).Steady

/-- Any two states. -/
def Anywhere (_ _ : σ) : Prop := True

/-- A world whose clock stands still, whatever state the collaborators are in. -/
def World.Still (w : World σ τ) : Prop := ∀ s s', w.wallShown s w.wall = w.wallShown s' w.wall

/-- Work that ends in the same way with the same record in all worlds that show the same time. -/
def Work.Independent (work : Work σ τ α) : Prop := work.Alike Anywhere (fun _ => true) work

/-- What work records in a world. -/
def Work.recordOf (work : Work σ τ α) (w : World σ τ) : List Event :=
  (work w).2.trace.drop w.trace.length

theorem Answers.Steady.alike {answers : Answers σ α} (h : answers.Steady) :
    answers.Alike Anywhere answers :=
  fun s s' _ => ⟨h s s', trivial⟩

theorem World.Still.later {w v : World σ τ} {events : List Event} (h : w.Still)
    (hv : w.Later v events) : v.SameTime Anywhere w :=
  World.SameTime.later ⟨trivial, fun s s' _ => h s s'⟩ hv (.refl w) trivial

namespace Work

variable {work : Work σ τ α}

/-- Independent work does the same whenever the time is the same. -/
theorem Independent.apply (h : work.Independent) {v w : World σ τ} (hv : v.SameTime Anywhere w) :
    (work v).1 = (work w).1 ∧ v.Later (work v).2 (work.recordOf w) := by
  obtain ⟨events, events', later, later', hsame, -, hview⟩ := h v w hv
  rw [List.filter_eq_self.mpr fun _ _ => rfl, List.filter_eq_self.mpr fun _ _ => rfl] at hview
  have hrecord : work.recordOf w = events' := later'.drop_trace
  rw [hrecord, ← hview]
  exact ⟨hsame, later⟩

end Work

/-! ### Single items -/

namespace Relayer

variable {r : Relayer σ} (hsteady : r.collaborators.Steady)

include hsteady

theorem notifySafely_independent (severity : Severity) (title body : String) :
    (r.notifySafely severity title body : Work σ τ Unit).Independent := by
  refine (Work.alike_ask (hsteady.notify _ _ _).alike _).attempt.bind fun outcome => ?_
  cases outcome with
  | ok _ => exact Work.alike_pure ()
  | error fault => exact Work.alike_log _

theorem failOutbound_independent (item : WorkItem) (reason : String) :
    (r.failOutbound item reason : Work σ τ WorkItem).Independent :=
  (Work.alike_log _).bind fun _ =>
    (notifySafely_independent hsteady _ _ _).bind fun _ => Work.alike_pure _

theorem outboundObstacle_independent (item : WorkItem) :
    (r.outboundObstacle item : Work σ τ (Option String)).Independent := by
  rw [outboundObstacle]
  split
  · exact Work.alike_pure _
  · rw [refundObstacle]
    split
    · exact Work.alike_pure _
    · refine (Work.alike_ask (hsteady.balance _).alike _).bind fun balance => ?_
      split
      · exact Work.alike_fail _
      · split <;> exact Work.alike_pure _
  · exact Work.alike_pure _

theorem sendBuilt_independent (item : WorkItem) (transaction : SignedTransaction) :
    (r.sendBuilt item transaction : Work σ τ WorkItem).Independent := by
  refine (Work.alike_ask (hsteady.send _).alike _).bind fun result => ?_
  split
  · exact (Work.alike_log _).bind fun _ => Work.alike_pure _
  · exact Work.alike_fail _

theorem buildOutbound_independent (item : WorkItem) :
    (r.buildOutbound item : Work σ τ WorkItem).Independent := by
  refine (Work.alike_ask (hsteady.build _).alike _).bind fun outcome => ?_
  cases outcome.kind? with
  | none => exact Work.alike_fail _
  | some kind =>
    cases kind with
    | built =>
      cases outcome.transaction with
      | none => exact Work.alike_fail _
      | some transaction => exact sendBuilt_independent hsteady item transaction
    | recoverable =>
      exact (Work.alike_log _).bind fun _ =>
        (Work.alike_ask (hsteady.invalidate _).alike _).bind fun _ => Work.alike_pure _
    | insufficientBalance => exact failOutbound_independent hsteady item _
    | invalidPayload => exact failOutbound_independent hsteady item _

theorem outboundFresh_independent (item : WorkItem) :
    (r.outboundFresh item : Work σ τ (Option WorkItem)).Independent := by
  rw [outboundFresh]
  split
  · exact (failOutbound_independent hsteady item _).bind fun _ => Work.alike_pure _
  · refine Work.Alike.bind ?_ fun _ => Work.alike_pure _
    refine (outboundObstacle_independent hsteady item).bind fun obstacle => ?_
    cases obstacle with
    | none => exact buildOutbound_independent hsteady item
    | some reason => exact failOutbound_independent hsteady item reason

theorem advanceOutbound_independent (item : WorkItem) :
    (r.advanceOutbound item : Work σ τ (Option WorkItem)).Independent := by
  rw [advanceOutbound]
  cases item.txHash with
  | none => exact outboundFresh_independent hsteady item
  | some txHash =>
    refine Work.Alike.bind Work.alike_now fun now => ?_
    refine Work.Alike.bind
      (resolveTransaction_alike (hsteady.transaction txHash).alike _ _) fun confirmation => ?_
    cases confirmation with
    | pending => exact Work.alike_pure _
    | errored => exact Work.alike_pure _
    | confirmed => exact (Work.alike_log _).bind fun _ => Work.alike_pure _
    | failed => exact outboundFresh_independent hsteady item
    | timedOut => exact outboundFresh_independent hsteady item

/-- **An outbound item** is worked on in the same way whenever its turn comes. -/
theorem outboundItem_independent (item : WorkItem) :
    (r.outboundItem item : Work σ τ (Option WorkItem)).Independent := by
  refine (advanceOutbound_independent hsteady item).attempt.bind fun outcome => ?_
  cases outcome with
  | ok result => exact Work.alike_pure result
  | error fault =>
    dsimp only
    split
    · exact (Work.alike_log _).bind fun _ =>
        (notifySafely_independent hsteady _ _ _).bind fun _ => Work.alike_pure _
    · exact Work.alike_fail _

theorem reviewResults_independent (events : List Json) (correlation : String) (tell : Bool)
    (results : List EventResult) :
    (r.reviewResults events correlation tell results : Work σ τ Unit).Independent := by
  induction results with
  | nil => exact Work.alike_pure ()
  | cons result rest ih =>
    rw [reviewResults]
    split
    · exact ih
    · refine (Work.alike_ofExcept _).bind fun type => ?_
      dsimp only
      split
      · refine (Work.alike_log _).bind fun _ => ?_
        split
        · exact (notifySafely_independent hsteady _ _ _).bind fun _ => ih
        · exact ih
      · refine (Work.alike_log _).bind fun _ => ?_
        split
        · exact (notifySafely_independent hsteady _ _ _).bind fun _ =>
            (Work.alike_ofExcept _).bind fun _ => Work.alike_fail _
        · exact (Work.alike_ofExcept _).bind fun _ => Work.alike_fail _

theorem publish_independent (events : List Json) (correlation : String) (tell : Bool) :
    (r.publish events correlation tell : Work σ τ Unit).Independent := by
  rw [publish]
  split
  · exact Work.alike_pure ()
  · refine (Work.alike_ask (hsteady.post _ _).alike _).bind fun results => ?_
    split
    · exact Work.alike_fail _
    · exact reviewResults_independent hsteady _ _ _ _

theorem relayEvents_independent (item : WorkItem) :
    (r.relayEvents item : Work σ τ (Option WorkItem)).Independent := by
  refine (Work.alike_ask (hsteady.transaction _).alike _).bind fun sighted => ?_
  cases sighted with
  | none => exact Work.alike_pure _
  | some transaction =>
    cases hstatus : transaction.status with
    | pending =>
      dsimp only
      rw [hstatus]
      exact Work.alike_pure _
    | success =>
      dsimp only
      rw [hstatus]
      exact (Work.alike_ask (hsteady.decode _).alike _).bind fun events =>
        (publish_independent hsteady _ _ _).bind fun _ =>
          (Work.alike_log _).bind fun _ => Work.alike_pure _
    | failed =>
      dsimp only
      rw [hstatus]
      exact (Work.alike_log _).bind fun _ => Work.alike_pure _

/-- **A transaction of the chain** is relayed in the same way whenever its turn comes. -/
theorem crossChainItem_independent (item : WorkItem) :
    (r.crossChainItem item : Work σ τ (Option WorkItem)).Independent := by
  refine (relayEvents_independent hsteady item).attempt.bind fun outcome => ?_
  cases outcome with
  | ok result => exact Work.alike_pure result
  | error fault =>
    dsimp only
    split
    · exact (Work.alike_log _).bind fun _ =>
        (notifySafely_independent hsteady _ _ _).bind fun _ => Work.alike_pure _
    · exact Work.alike_fail _

end Relayer

/-! ### Batches -/

/-- A batch that is put together, in order, from the batches of its single items. -/
structure Itemwise (batch : List WorkItem → Work σ τ (List WorkItem)) (w : World σ τ) : Prop where
  /-- It ends as the first single batch does that ends without results; otherwise its results are
  those of all of them. -/
  ends : ∀ items, (batch items w).1 =
    (items.mapM fun item => (batch [item] w).1).map List.flatten
  /-- So it ends without results exactly if some single batch does. -/
  raises : ∀ items, (∃ halt, (batch items w).1 = .error halt) ↔
    ∃ item ∈ items, ∃ halt, (batch [item] w).1 = .error halt
  /-- Its record is made of those of the single batches. -/
  record : ∀ items results, (batch items w).1 = .ok results →
    (batch items).recordOf w = items.flatMap fun item => (batch [item]).recordOf w

section Sequences

variable {γ ε : Type} {f : γ → Except ε α} {g : γ → Except ε (Option α)}

/-- A sequence ends with an error exactly if one of its members does. -/
theorem exists_mapM_eq_error_iff {items : List γ} :
    (∃ e, items.mapM f = .error e) ↔ ∃ item ∈ items, ∃ e, f item = .error e := by
  induction items with
  | nil =>
    refine iff_of_false ?_ ?_
    · rintro ⟨e, h⟩
      cases h
    · rintro ⟨item, h, -⟩
      cases h
  | cons item rest ih =>
    rw [List.mapM_cons, List.exists_mem_cons_iff]
    cases hitem : f item with
    | error e => exact iff_of_true ⟨e, rfl⟩ (.inl ⟨e, rfl⟩)
    | ok a =>
      have hhead : ¬ ∃ e, (Except.ok a : Except ε α) = .error e := by
        rintro ⟨e, h⟩
        cases h
      rw [or_iff_right hhead, ← ih]
      cases rest.mapM f with
      | error e => exact iff_of_true ⟨e, rfl⟩ ⟨e, rfl⟩
      | ok as =>
        refine iff_of_false ?_ ?_ <;>
        · rintro ⟨e, h⟩
          cases h

/-- The lists of a sequence, from its first member on. -/
theorem map_flatten_mapM_cons {f : γ → Except ε (List α)} (item : γ) (rest : List γ) :
    ((item :: rest).mapM f).map List.flatten =
      f item >>= fun as => ((rest.mapM f).map List.flatten).map (as ++ ·) := by
  rw [List.mapM_cons]
  cases f item with
  | error e => rfl
  | ok as => cases rest.mapM f <;> rfl

/-- The values of a sequence, from its first member on. -/
theorem map_filterMap_mapM_cons (item : γ) (rest : List γ) :
    ((item :: rest).mapM g).map (List.filterMap id) =
      g item >>= fun a => ((rest.mapM g).map (List.filterMap id)).map (a.toList ++ ·) := by
  rw [List.mapM_cons]
  cases g item with
  | error e => rfl
  | ok a => cases rest.mapM g <;> cases a <;> rfl

/-- The values that there are, collected one by one. -/
theorem mapM_toList_flatten (items : List γ) :
    (items.mapM fun item => (g item).map Option.toList).map List.flatten =
      (items.mapM g).map (List.filterMap id) := by
  induction items with
  | nil => rfl
  | cons item rest ih =>
    rw [map_flatten_mapM_cons, map_filterMap_mapM_cons, ih]
    cases g item <;> rfl

end Sequences

namespace Work

/-- What is made of a value makes no difference to the world. -/
theorem bind_pure_apply (work : Work σ τ α) (f : α → β) (w : World σ τ) :
    (work >>= fun a => pure (f a)) w = ((work w).1.map f, (work w).2) := by
  rw [bind_apply]
  cases work w with
  | mk result w' => cases result <;> rfl

variable {work : WorkItem → Work σ τ (Option WorkItem)} {v w : World σ τ}

/-- **Independent items** end and record in a batch as they would at its beginning. -/
theorem mapM_independent (h : ∀ item, (work item).Independent) (items : List WorkItem)
    (hv : v.SameTime Anywhere w) :
    ((items.mapM work) v).1 = (items.mapM fun item => (work item w).1) ∧
      ∃ events, v.Later ((items.mapM work) v).2 events ∧
        ∀ outs, ((items.mapM work) v).1 = .ok outs →
          events = items.flatMap fun item => (work item).recordOf w := by
  induction items generalizing v with
  | nil => exact ⟨rfl, [], .refl v, fun _ _ => rfl⟩
  | cons item rest ih =>
    obtain ⟨hsame, hlater⟩ := (h item).apply hv
    rw [List.mapM_cons, List.mapM_cons, bind_apply, ← hsame]
    cases hrun : work item v with
    | mk result v' =>
      rw [hrun] at hlater
      cases result with
      | error halt => exact ⟨rfl, _, hlater, fun outs hok => by cases hok⟩
      | ok out =>
        obtain ⟨hrest, events, hlater', hrecord⟩ := ih (hv.later hlater (.refl w) trivial)
        dsimp only
        rw [bind_pure_apply, hrest]
        refine ⟨rfl, _, hlater.trans hlater', fun outs hok => ?_⟩
        cases hmap : rest.mapM fun item => (work item w).1 with
        | error halt =>
          rw [hmap] at hok
          cases hok
        | ok outs' => rw [List.flatMap_cons, hrecord outs' (hrest.trans hmap)]

end Work

namespace Itemwise

variable {work : WorkItem → Work σ τ (Option WorkItem)}
  {batch : List WorkItem → Work σ τ (List WorkItem)} {w : World σ τ}

/-- A batch of independent items by the runs of its items. -/
theorem apply_of_independent (h : ∀ item, (work item).Independent)
    (hbatch : ∀ items, ∃ start, w.Later start [] ∧ batch items w =
      (items.mapM work >>= fun outs => pure (outs.filterMap id)) start)
    (hw : w.Still) (items : List WorkItem) :
    (batch items w).1 = (items.mapM fun item => (work item w).1).map (List.filterMap id) ∧
      ∀ results, (batch items w).1 = .ok results →
        (batch items).recordOf w = items.flatMap fun item => (work item).recordOf w := by
  obtain ⟨start, hstart, hrun⟩ := hbatch items
  obtain ⟨hsame, events, hlater, hrecord⟩ := Work.mapM_independent h items (hw.later hstart)
  rw [Work.recordOf, hrun, Work.bind_pure_apply, hsame]
  refine ⟨rfl, fun results hok => ?_⟩
  cases hmap : items.mapM fun item => (work item w).1 with
  | error halt =>
    rw [hmap] at hok
    cases hok
  | ok outs =>
    rw [(hstart.trans hlater).drop_trace, List.nil_append, hrecord outs (hsame.trans hmap)]

/-- A batch of one item that comes to nothing. -/
theorem apply_singleton_of_none (h : ∀ item, (work item).Independent)
    (hbatch : ∀ items, ∃ start, w.Later start [] ∧ batch items w =
      (items.mapM work >>= fun outs => pure (outs.filterMap id)) start)
    (hw : w.Still) {item : WorkItem} (hnone : (work item w).1 = .ok none) :
    (batch [item] w).1 = .ok [] ∧ (batch [item]).recordOf w = (work item).recordOf w := by
  obtain ⟨hends, hrecord⟩ := apply_of_independent h hbatch hw [item]
  have hok : (batch [item] w).1 = .ok [] := by
    rw [hends, List.mapM_cons, hnone]
    rfl
  exact ⟨hok, by rw [hrecord _ hok, List.flatMap_singleton]⟩

/-- **From single items to batches.** -/
theorem of_independent (h : ∀ item, (work item).Independent)
    (hbatch : ∀ items, ∃ start, w.Later start [] ∧ batch items w =
      (items.mapM work >>= fun outs => pure (outs.filterMap id)) start)
    (hw : w.Still) : Itemwise batch w := by
  have hrun := apply_of_independent h hbatch hw
  have hsingle (item : WorkItem) : (batch [item] w).1 = (work item w).1.map Option.toList := by
    rw [(hrun [item]).1, ← mapM_toList_flatten, List.mapM_cons, List.mapM_nil]
    cases (work item w).1 with
    | error halt => rfl
    | ok out => cases out <;> rfl
  have hends (items : List WorkItem) : (batch items w).1 =
      (items.mapM fun item => (batch [item] w).1).map List.flatten := by
    rw [(hrun items).1, funext hsingle, mapM_toList_flatten]
  have hraises (items : List WorkItem) : (∃ halt, (batch items w).1 = .error halt) ↔
      ∃ item ∈ items, ∃ halt, (batch [item] w).1 = .error halt := by
    rw [← exists_mapM_eq_error_iff, hends]
    cases items.mapM fun item => (batch [item] w).1 with
    | error halt => exact iff_of_true ⟨halt, rfl⟩ ⟨halt, rfl⟩
    | ok lists =>
      refine iff_of_false ?_ ?_ <;>
      · rintro ⟨halt, h⟩
        cases h
  refine ⟨hends, hraises, fun items results hok => ?_⟩
  rw [(hrun items).2 results hok]
  refine List.flatMap_congr fun item hitem => ?_
  cases hone : (batch [item] w).1 with
  | error halt =>
    obtain ⟨halt', herror⟩ := (hraises items).mpr ⟨item, hitem, halt, hone⟩
    cases hok.symm.trans herror
  | ok outs => rw [(hrun [item]).2 outs hone, List.flatMap_singleton]

end Itemwise

namespace Relayer

variable (r : Relayer σ) {w : World σ τ}

theorem outboundBatch_apply (items : List WorkItem) : ∃ start, w.Later start [] ∧
    r.outboundBatch items w =
      (items.mapM r.outboundItem >>= fun outs => pure (outs.filterMap id)) start :=
  ⟨w, .refl w, rfl⟩

theorem crossChainBatch_apply (items : List WorkItem) : ∃ start, w.Later start [] ∧
    r.crossChainBatch items w =
      (items.mapM r.crossChainItem >>= fun outs => pure (outs.filterMap id)) start :=
  ⟨_, ⟨w.env, _, by rw [List.append_nil]⟩, rfl⟩

variable {r}

/-- Batches of outbound transactions are made of their items. -/
theorem outboundBatch_itemwise (hsteady : r.collaborators.Steady) (hw : w.Still) :
    Itemwise r.outboundBatch w :=
  .of_independent (outboundItem_independent hsteady) r.outboundBatch_apply hw

/-- Batches of transactions of the chain are made of their items. -/
theorem crossChainBatch_itemwise (hsteady : r.collaborators.Steady) (hw : w.Still) :
    Itemwise r.crossChainBatch w :=
  .of_independent (crossChainItem_independent hsteady) r.crossChainBatch_apply hw

end Relayer

end ChainRelay
