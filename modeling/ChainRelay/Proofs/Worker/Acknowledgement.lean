import ChainRelay.Proofs.Queue.Overlap
import ChainRelay.Proofs.Worker.MessageCourse
import ChainRelay.Worker.CrossChain
import Mathlib.Data.List.Perm.Subperm
import Mathlib.Data.List.Range

/-!
# Events that the hub has acknowledged

Events are posted together, and each result says by an index which of them it is about. Whether the
results are complete is found out by counting them, and the indexes are the hub's own. So every
event has an acknowledgement exactly if the indexes are the places of the events in some order; a
result that is given twice hides an event that has none.

## The contract

A publication ends normally exactly if the hub answers with as many results as there are events and
none of them asks for another try. A retriable rejection is never passed over, whichever event it is
about. A transaction is done with only if it has failed on the chain, or has no events, or its
events were published in this way.

## Main definitions

* `Acknowledged` — the event at a place has a result that settles it
* `GoneThrough` — the results of a publication that ends normally
* `Relayed` — how a transaction came to be done with, by what was recorded

## Main results

* `GoneThrough.acknowledged_iff` — when all events are acknowledged
* `Relayer.publish_eq_ok_iff` — when a publication ends normally
* `Relayer.crossChain_acknowledgement` — what that means for publications and for batches
* `Relayer.crossChain_unacknowledged` — a transaction that is done with although the hub has said
  nothing about one of its events
-/

namespace ChainRelay

variable {σ τ : Type}

/-! ### Results and events -/

/-- A result settles its event: the hub has accepted it, or rejects it for good. -/
def EventResult.Settles (result : EventResult) : Prop :=
  result.accepted = true ∨ result.retriable = false

/-- The event at a place has a result that settles it. -/
def Acknowledged (results : List EventResult) (place : ℕ) : Prop :=
  ∃ result ∈ results, result.index = place ∧ result.Settles

/-- What the results of a post have to be for the publication to end normally. -/
structure GoneThrough (events : List Json) (results : List EventResult) : Prop where
  /-- There are as many results as events. -/
  counted : results.length = events.length
  /-- None asks for another try. -/
  settled : ∀ result ∈ results, result.Settles
  /-- The event that a rejection is about is an object, so that its type can be reported. -/
  readable : ∀ result ∈ results, result.accepted = false →
    ∃ type, (Relayer.eventOf events result.index).get "type" = .ok type

namespace GoneThrough

variable {events : List Json} {results : List EventResult}

/-- An event is acknowledged exactly if a result has its place as index. -/
theorem acknowledged_iff_mem (h : GoneThrough events results) (place : ℕ) :
    Acknowledged results place ↔ (place : ℤ) ∈ results.map EventResult.index := by
  rw [List.mem_map]
  constructor
  · rintro ⟨result, hresult, hindex, -⟩
    exact ⟨result, hresult, hindex⟩
  · rintro ⟨result, hresult, hindex⟩
    exact ⟨result, hresult, hindex, h.settled result hresult⟩

/-- **All events are acknowledged** exactly if the indexes of the results are the places of the
events, in some order. -/
theorem acknowledged_iff (h : GoneThrough events results) :
    (∀ place < events.length, Acknowledged results place) ↔
      (results.map EventResult.index).Perm ((List.range events.length).map Int.ofNat) := by
  constructor
  · intro hall
    -- the places are distinct and all of them occur, so that nothing else does
    have hnodup : ((List.range events.length).map Int.ofNat).Nodup :=
      List.nodup_range.map fun _ _ => Int.ofNat.inj
    have hsubset : (List.range events.length).map Int.ofNat ⊆ results.map EventResult.index := by
      intro index hindex
      obtain ⟨place, hplace, rfl⟩ := List.mem_map.mp hindex
      exact (h.acknowledged_iff_mem place).mp (hall place (List.mem_range.mp hplace))
    refine ((List.subperm_of_subset hnodup hsubset).perm_of_length_le ?_).symm
    rw [List.length_map, List.length_map, List.length_range, h.counted]
  · intro hperm place hplace
    rw [h.acknowledged_iff_mem, hperm.mem_iff]
    exact List.mem_map_of_mem (List.mem_range.mpr hplace)

end GoneThrough

/-! ### Publications -/

/-- Work was ended by a failing collaborator. -/
def ByCollaborator {α : Type} (result : Except Halt α) : Prop :=
  ∃ fault, fault.isDependency = true ∧ result = .error (.fault fault)

namespace Relayer

/-- The results of a post are gone through to the end exactly if each of them settles its event, and
the types of the rejected events can be read. -/
theorem reviewResults_always (r : Relayer σ) (events : List Json) (correlation : String)
    (tell : Bool) (results : List EventResult) :
    (r.reviewResults events correlation tell results : Work σ τ Unit).Always fun ending =>
      ending = .ok () ↔ ∀ result ∈ results, result.Settles ∧ (result.accepted = false →
        ∃ type, (eventOf events result.index).get "type" = .ok type) := by
  induction results with
  | nil => exact Work.always_pure (iff_of_true rfl fun result h => by cases h)
  | cons result rest ih =>
    simp only [List.forall_mem_cons]
    rw [reviewResults]
    cases haccepted : result.accepted with
    | true =>
      have hhead : result.Settles ∧ (true = false →
          ∃ type, (eventOf events result.index).get "type" = .ok type) :=
        ⟨.inl haccepted, fun h => by cases h⟩
      rw [if_pos rfl, and_iff_right hhead]
      exact ih
    | false =>
      rw [if_neg Bool.false_ne_true]
      dsimp only
      cases htype : (eventOf events result.index).get "type" with
      | error fault =>
        refine fun w => iff_of_false (fun h => by cases h) fun h => ?_
        obtain ⟨type, htype'⟩ := h.1.2 rfl
        cases htype'
      | ok type =>
        refine Work.Always.bind (Work.always_pure rfl) ?_
        cases hretriable : result.retriable with
        | false =>
          rw [and_iff_right ⟨.inr hretriable, fun _ => ⟨type, rfl⟩⟩]
          refine (Work.always_log _).bind ?_
          cases tell with
          | false => exact ih
          | true => exact (r.notifySafely_always _ _ _).bind ih
        | true =>
          have hunsettled : ¬ result.Settles := by
            rintro (h | h)
            · cases haccepted.symm.trans h
            · cases hretriable.symm.trans h
          -- the publication ends here, whether or not the event can be named
          have hfails : (Work.ofExcept ((eventOf events result.index).get "eventID") >>= fun id =>
              Work.fail (.retriableRejection (id.getD (.str correlation)).shown result.error) :
                Work σ τ Unit).Always fun ending => ending = .ok () ↔ False := by
            cases (eventOf events result.index).get "eventID" <;>
              exact fun w => iff_of_false (fun h => by cases h) id
          refine fun w => ((?_ : Work.Always _ fun ending => ending = .ok () ↔ False) w).trans
            (iff_of_false id fun h => hunsettled h.1.1)
          refine (Work.always_log _).bind ?_
          cases tell with
          | false => exact hfails
          | true => exact (r.notifySafely_always _ _ _).bind hfails

/-- The event that a result is about is an object, if all events are. -/
theorem exists_eventOf_eq {events : List Json} (h : ∀ event ∈ events, ∃ fields, event = .obj fields)
    (index : Int) : ∃ fields, eventOf events index = .obj fields := by
  rw [eventOf]
  split
  · rw [List.getD_eq_getElem?_getD]
    cases hevent : events[index.toNat]? with
    | none => exact ⟨[], rfl⟩
    | some event => exact h event (List.mem_of_getElem? hevent)
  · exact ⟨[], rfl⟩

/-- Going through the results of events that are objects ends normally or by a failing
collaborator. -/
theorem reviewResults_contained (r : Relayer σ) {events : List Json}
    (h : ∀ event ∈ events, ∃ fields, event = .obj fields) (correlation : String) (tell : Bool)
    (results : List EventResult) :
    (r.reviewResults events correlation tell results : Work σ τ Unit).Always fun ending =>
      ending = .ok () ∨ ByCollaborator ending := by
  induction results with
  | nil => exact Work.always_pure (.inl rfl)
  | cons result rest ih =>
    rw [reviewResults]
    split
    · exact ih
    · obtain ⟨fields, hevent⟩ := exists_eventOf_eq h result.index
      dsimp only
      rw [hevent]
      refine Work.Always.bind (Work.always_pure rfl) ?_
      split
      · refine (Work.always_log _).bind ?_
        split
        · exact (r.notifySafely_always _ _ _).bind ih
        · exact ih
      · refine (Work.always_log _).bind ?_
        have hrejected (id : String) : (Work.fail (.retriableRejection id result.error) :
            Work σ τ Unit).Always fun ending => ending = .ok () ∨ ByCollaborator ending :=
          Work.always_fail (.inr ⟨_, rfl, rfl⟩)
        split
        · exact (r.notifySafely_always _ _ _).bind
            (Work.Always.bind (Work.always_pure rfl) (hrejected _))
        · exact Work.Always.bind (Work.always_pure rfl) (hrejected _)

theorem goneThrough_iff {events : List Json} {results : List EventResult} :
    GoneThrough events results ↔ results.length = events.length ∧
      ∀ result ∈ results, result.Settles ∧ (result.accepted = false →
        ∃ type, (eventOf events result.index).get "type" = .ok type) :=
  ⟨fun h => ⟨h.counted, fun _ hresult => ⟨h.settled _ hresult, h.readable _ hresult⟩⟩,
    fun h => ⟨h.1, fun _ hresult => (h.2 _ hresult).1, fun _ hresult => (h.2 _ hresult).2⟩⟩

/-- **A publication** ends normally exactly if there is nothing to publish, or the hub answers with
results that can be gone through. -/
theorem publish_eq_ok_iff (r : Relayer σ) (events : List Json) (correlation : String)
    (tell : Bool) (w : World σ τ) :
    (r.publish events correlation tell w).1 = .ok () ↔ events = [] ∨ ∃ results,
      (r.collaborators.hub.post events correlation w.env).1 = .ok results ∧
        GoneThrough events results := by
  rw [publish]
  cases events with
  | nil => exact iff_of_true rfl (.inl rfl)
  | cons event rest =>
    rw [List.isEmpty_cons, if_neg Bool.false_ne_true, Work.bind_apply, Work.ask_apply]
    cases (r.collaborators.hub.post (event :: rest) correlation w.env).1 with
    | error fault =>
      refine iff_of_false (fun h => by cases h) ?_
      rintro (h | ⟨results, h, -⟩) <;> cases h
    | ok results =>
      have hposted : (event :: rest = [] ∨ ∃ results',
          (Except.ok results : Except Fault (List EventResult)) = .ok results' ∧
            GoneThrough (event :: rest) results') ↔ GoneThrough (event :: rest) results := by
        simp
      rw [hposted, goneThrough_iff]
      dsimp only [Except.mapError]
      by_cases hcounted : results.length = (event :: rest).length
      · rw [if_neg (not_not_intro hcounted), and_iff_right hcounted]
        exact r.reviewResults_always _ _ _ _ _
      · rw [if_pos hcounted]
        exact iff_of_false (fun h => by cases h) fun h => hcounted h.1

/-- Publishing events that are objects ends normally or by a failing collaborator, unless the hub
fails otherwise. -/
theorem publish_contained (r : Relayer σ) {events : List Json}
    (hobjects : ∀ event ∈ events, ∃ fields, event = .obj fields) (correlation : String)
    (tell : Bool) (w : World σ τ)
    (hpost : ∀ fault, (r.collaborators.hub.post events correlation w.env).1 = .error fault →
      fault.isDependency = true) :
    (r.publish events correlation tell w).1 = .ok () ∨
      ByCollaborator (r.publish events correlation tell w).1 := by
  rw [publish]
  split
  · exact .inl rfl
  · rw [Work.bind_apply, Work.ask_apply]
    cases hanswer : (r.collaborators.hub.post events correlation w.env).1 with
    | error fault => exact .inr ⟨fault, hpost fault hanswer, rfl⟩
    | ok results =>
      dsimp only [Except.mapError]
      split
      · exact .inr ⟨_, rfl, rfl⟩
      · exact r.reviewResults_contained hobjects correlation tell results _

/-- What a publication records that ends normally. -/
theorem publish_goneThrough (r : Relayer σ) (events : List Json) (correlation : String)
    (tell : Bool) :
    (r.publish events correlation tell : Work σ τ Unit).Asks fun recorded result =>
      result = .ok () → (events = [] ∧ recorded = []) ∨ ∃ results reports,
        recorded = .posted events correlation (.ok results) :: reports ∧
          GoneThrough events results ∧ ∀ e ∈ reports, e.IsAside := by
  rw [publish]
  split
  · refine (Work.asks_pure ()).mono ?_
    rintro recorded result ⟨rfl, rfl⟩ -
    exact .inl ⟨List.isEmpty_iff.mp ‹_›, rfl⟩
  · refine Work.Asks.bind (Work.asks_ask _ _) ?_ ?_
    · rintro results first ⟨answer, rfl, hanswer⟩
      obtain rfl : .ok results = answer := Work.mapError_fault_injective hanswer
      split
      · refine (Work.asks_fail _).mono ?_
        rintro reports result ⟨-, rfl⟩ h
        cases h
      · intro w
        obtain ⟨reports, later, hasides, -⟩ :=
          r.reviewResults_yields events correlation tell results w
        refine ⟨reports, later, fun hok => .inr ⟨results, reports, rfl, ?_, hasides⟩⟩
        exact goneThrough_iff.mpr ⟨not_not.mp ‹_›,
          (r.reviewResults_always events correlation tell results w).mp hok⟩
    · rintro halt recorded ⟨answer, rfl, -⟩ h
      cases h

end Relayer

/-! ### Transactions that are done with -/

/-- How the transaction of an item came to be done with, by what was recorded in its turn. -/
inductive Relayed (item : WorkItem) : List Event → Prop
  /-- It has failed on the chain, and there is nothing to relay. -/
  | failed {transaction : ChainTransaction} (status : transaction.status = .failed) :
      Relayed item [.lookedUp item.key (.ok (some transaction))]
  /-- It has succeeded without any events. -/
  | silent {transaction : ChainTransaction} (status : transaction.status = .success) :
      Relayed item [.lookedUp item.key (.ok (some transaction)), .decoded transaction (.ok [])]
  /-- It has succeeded, and its events were published. -/
  | published {transaction : ChainTransaction} {events : List Json} {results : List EventResult}
      {reports : List Event} (status : transaction.status = .success)
      (gone : GoneThrough events results) (asides : ∀ e ∈ reports, e.IsAside) :
      Relayed item (.lookedUp item.key (.ok (some transaction)) ::
        .decoded transaction (.ok events) :: .posted events item.key (.ok results) :: reports)

namespace Relayer

/-- An item with a result is done with, and its transaction was relayed. -/
theorem relayEvents_asks (r : Relayer σ) (item : WorkItem) :
    (r.relayEvents item : Work σ τ (Option WorkItem)).Asks fun events result =>
      ∀ out, result = .ok (some out) →
        out = { item with status := .success } ∧ Relayed item events := by
  rw [relayEvents]
  refine Work.Asks.bind (Work.asks_ask _ _) ?_ ?_
  · rintro sighted first ⟨answer, rfl, hanswer⟩
    obtain rfl : .ok sighted = answer := Work.mapError_fault_injective hanswer
    -- an item that is left alone
    have hleave : (pure none : Work σ τ (Option WorkItem)).Asks fun rest result =>
        ∀ out, result = .ok (some out) → out = { item with status := .success } ∧
          Relayed item ([.lookedUp item.key (.ok sighted)] ++ rest) := by
      refine (Work.asks_pure none).mono ?_
      rintro rest result ⟨-, rfl⟩ out h
      cases h
    have hdone {rest : List Event} {result : Except Halt (Option WorkItem)}
        (hresult : result = .ok (some { item with status := .success }))
        (hrelayed : Relayed item rest) : ∀ out, result = .ok (some out) →
          out = { item with status := .success } ∧ Relayed item rest := by
      rintro out h
      cases hresult.symm.trans h
      exact ⟨rfl, hrelayed⟩
    cases sighted with
    | none => exact hleave
    | some transaction =>
      cases hstatus : transaction.status with
      | pending =>
        dsimp only
        rw [hstatus]
        exact hleave
      | failed =>
        dsimp only
        rw [hstatus]
        refine Work.asks_log_bind ((Work.asks_pure _).mono ?_)
        rintro rest result ⟨rfl, rfl⟩
        exact hdone rfl (.failed hstatus)
      | success =>
        dsimp only
        rw [hstatus]
        refine Work.Asks.bind (Work.asks_ask _ _) ?_ ?_
        · rintro events second ⟨answer, rfl, hanswer⟩
          obtain rfl : .ok events = answer := Work.mapError_fault_injective hanswer
          refine Work.Asks.bind (r.publish_goneThrough events item.key true) ?_ ?_
          · rintro _ third hthird
            refine Work.asks_log_bind ((Work.asks_pure _).mono ?_)
            rintro rest result ⟨rfl, rfl⟩
            rcases hthird rfl with ⟨rfl, rfl⟩ | ⟨results, reports, rfl, hgone, hasides⟩
            · exact hdone rfl (.silent hstatus)
            · rw [List.append_nil]
              exact hdone rfl (.published hstatus hgone hasides)
          · rintro halt recorded - out h
            cases h
        · rintro halt recorded - out h
          cases h
  · rintro halt recorded - out h
    cases h

/-- A failing collaborator leaves an item without a result. -/
theorem crossChainItem_asks (r : Relayer σ) (item : WorkItem) :
    (r.crossChainItem item : Work σ τ (Option WorkItem)).Asks fun events result =>
      ∀ out, result = .ok (some out) →
        out = { item with status := .success } ∧ Relayed item events := by
  rw [crossChainItem]
  refine Work.Asks.bind (Work.asks_attempt (r.relayEvents_asks item)) ?_ ?_
  · rintro outcome first hfirst
    cases outcome with
    | ok kept =>
      refine (Work.asks_pure kept).mono ?_
      rintro rest result ⟨rfl, rfl⟩ out h
      cases h
      rw [List.append_nil]
      exact hfirst out rfl
    | error fault =>
      -- whatever is reported, there is no result
      have hnone : (if fault.isDependency then do
          Work.log {
            level := .warning, logger := crossChainLogger
            message := "error while processing cross chain transaction, will be retried: " ++
              fault.message
            context := [("natural_key", .str item.key)] }
          r.notifySafely .warn "Cross chain transaction processing error"
            ("An error occurred while processing cross chain transaction " ++ item.key ++
              ". Will be retried")
          return none
        else Work.fail fault : Work σ τ (Option WorkItem)).Yields (fun _ => True)
          fun out => out = none := by
        split
        · refine Work.Yields.bind (Work.yields_log _) fun _ _ => ?_
          exact Work.Yields.bind (r.notifySafely_yields_of _ _ _ fun _ => trivial)
            fun _ _ => Work.yields_pure rfl
        · exact Work.yields_fail _
      refine Work.Asks.mono hnone ?_
      rintro rest result ⟨-, hvalue⟩ out h
      cases hvalue _ h
  · rintro halt events - out h
    cases h

/-- The results of a batch are those of its turns, in order. -/
theorem turns_of_crossChainBatch (r : Relayer σ) {items results : List WorkItem} {w : World σ τ}
    (h : (r.crossChainBatch items w).1 = .ok results) :
    ∃ start, w.Later start [] ∧ (Work.turns r.crossChainItem items start).map Turn.item = items ∧
      results = (Work.turns r.crossChainItem items start).filterMap fun t => t.value?.bind id := by
  obtain ⟨w'', hrun⟩ : ∃ w'', r.crossChainBatch items w = (.ok results, w'') := ⟨_, Prod.ext h rfl⟩
  obtain ⟨_, start, hlog, hrest⟩ := Work.bind_apply_eq_ok hrun
  obtain ⟨outs, w', hmap, hpure⟩ := Work.bind_apply_eq_ok hrest
  cases hlog
  cases hpure
  have houts := congrArg Prod.fst hmap
  exact ⟨_, ⟨w.env, _, by rw [List.append_nil]⟩, (Work.turns_of_mapM houts).1,
    Work.filterMap_of_mapM houts id⟩

/-- **What is acknowledged.** A publication ends normally exactly if there is nothing to publish or
the hub answers with one result for each event, none of which asks for another try. All events are
acknowledged then exactly if the indexes of the results are the places of the events. A batch is
done with a transaction only if it has failed, or has no events, or its events were published in
this way. -/
theorem crossChain_acknowledgement (r : Relayer σ) :
    (∀ (events : List Json) (correlation : String) (tell : Bool) (w : World σ τ),
      (r.publish events correlation tell w).1 = .ok () ↔ events = [] ∨ ∃ results,
        (r.collaborators.hub.post events correlation w.env).1 = .ok results ∧
          GoneThrough events results) ∧
    (∀ (events : List Json) (results : List EventResult), GoneThrough events results →
      ((∀ place < events.length, Acknowledged results place) ↔
        (results.map EventResult.index).Perm ((List.range events.length).map Int.ofNat))) ∧
    ∀ (items results : List WorkItem) (w : World σ τ),
      (r.crossChainBatch items w).1 = .ok results →
      ∃ start, w.Later start [] ∧
        (Work.turns r.crossChainItem items start).map Turn.item = items ∧
        results = ((Work.turns r.crossChainItem items start).filterMap
          fun t => t.value?.bind id) ∧
        ∀ t ∈ Work.turns r.crossChainItem items start, ∀ out, t.result = .ok (some out) →
          out = { t.item with status := .success } ∧ Relayed t.item t.events := by
  refine ⟨r.publish_eq_ok_iff, fun events results h => h.acknowledged_iff,
    fun items results w h => ?_⟩
  obtain ⟨start, hlater, hitems, hresults⟩ := r.turns_of_crossChainBatch h
  refine ⟨start, hlater, hitems, hresults, fun t ht => ?_⟩
  exact Work.holds_of_mem_turns (P := fun item _ events (result : Except Halt (Option WorkItem)) =>
    ∀ out, result = .ok (some out) →
      out = { item with status := .success } ∧ Relayed item events) r.crossChainItem_asks ht

/-! ### An event without a result -/

/-- A transaction of the chain with two events. -/
def twoEvents : List Json :=
  [.obj [("type", .str "CALL"), ("eventID", .str "0x00-0")],
    .obj [("type", .str "CALL"), ("eventID", .str "0x00-1")]]

/-- Results that accept the events at these places. -/
def acceptedAt (places : List Int) : List EventResult :=
  places.map fun place => { index := place, accepted := true }

/-- A chain with this transaction, and a hub that answers in this way for its events. -/
def answeringFor (places : List Int) : Simulation where
  transactions := [("0x00", { txHash := "0x00", status := .success })]
  decoded := [("0x00", twoEvents)]
  postAnswer := some (acceptedAt places)

/-- With a hub that answers for both events, the second one first, both have an acknowledgement when
the transaction is done with. -/
theorem crossChain_acknowledgement_swapped :
    let w : World Simulation Unit := World.initial (answeringFor [1, 0]) ()
    (simulated.publish twoEvents "0x00" true w).1 = .ok () ∧
    (simulated.crossChainBatch [relayedAs "0x00"] w).1 =
      .ok [{ relayedAs "0x00" with status := .success }] ∧
    (∀ place < 2, Acknowledged (acceptedAt [1, 0]) place) ∧
    ∃ events, Relayed (relayedAs "0x00") events := by
  intro w
  obtain ⟨hpublish, hall, hbatch⟩ := crossChain_acknowledgement (τ := Unit) simulated
  have hpublished : (simulated.publish twoEvents "0x00" true w).1 = .ok () := rfl
  have hresults : (simulated.crossChainBatch [relayedAs "0x00"] w).1 =
    .ok [{ relayedAs "0x00" with status := .success }] := rfl
  refine ⟨hpublished, hresults, ?_, ?_⟩
  · rcases (hpublish _ _ _ _).mp hpublished with h | ⟨results, h, hgone⟩
    · cases h
    · cases h
      exact (hall _ _ hgone).mpr (List.Perm.swap _ _ _)
  · obtain ⟨start, -, -, hvalues, hrelayed⟩ := hbatch _ _ _ hresults
    have hmem : { relayedAs "0x00" with status := .success } ∈
        (Work.turns simulated.crossChainItem [relayedAs "0x00"] start).filterMap
          fun t => t.value?.bind id := by
      rw [← hvalues]
      exact List.mem_cons_self
    obtain ⟨t, ht, hvalue⟩ := List.mem_filterMap.mp hmem
    have hitem : t.item = relayedAs "0x00" :=
      List.mem_singleton.mp (Work.item_mem_of_mem_turns ht)
    obtain ⟨out, hout, rfl⟩ := Option.bind_eq_some_iff.mp hvalue
    exact ⟨t.events, hitem ▸ (hrelayed t ht _ (Turn.value?_eq_some_iff.mp hout)).2⟩

/-- **An event without a result.** With a hub that answers for the first event twice, the
publication ends normally and the transaction is done with, although the hub has said nothing about
the second event. -/
theorem crossChain_unacknowledged :
    let w : World Simulation Unit := World.initial (answeringFor [0, 0]) ()
    (simulated.publish twoEvents "0x00" true w).1 = .ok () ∧
    (simulated.crossChainBatch [relayedAs "0x00"] w).1 =
      .ok [{ relayedAs "0x00" with status := .success }] ∧
    (simulated.collaborators.hub.post twoEvents "0x00" w.env).1 = .ok (acceptedAt [0, 0]) ∧
    ¬ Acknowledged (acceptedAt [0, 0]) 1 := by
  refine ⟨rfl, rfl, rfl, ?_⟩
  rintro ⟨result, hresult, hindex, -⟩
  obtain ⟨place, hplace, rfl⟩ := List.mem_map.mp hresult
  have hzero : place = 0 := by simpa using hplace
  cases hzero.symm.trans hindex

end Relayer

end ChainRelay
