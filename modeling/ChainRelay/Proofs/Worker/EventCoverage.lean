import ChainRelay.Proofs.World.Writes
import ChainRelay.Worker.Events
import ChainRelay.World.Simulation
import Mathlib.Data.List.Nodup

/-!
# Events that polling covers

The events of a contract form a log, newest first, that only grows at its front. It is read page by
page while it grows, so pages may overlap and may hold events that are newer than the first page.
The cursor is the newest event of the first page, and this is what makes it safe: whatever is at or
behind it was on one of the pages, or was covered by the cursor before.

## The contract

An answer of the chain is a fault or the part of the log that was asked for, and events may arrive
with every answer. Between polls the log may grow and rows may be written by others; nobody else
sets the cursor. A poll that halts, as it does when the chain fails, changes nothing.

## Main definitions

* `EventLog` — a chain that serves a log
* `Covers` — the cursor is an event of the log, and what is at or behind it has its rows
* `Polled` — the histories of a relayer that polls a contract
* `PollLaw` — what one poll owes to the log

## Main results

* `Relayer.readPages_covers` — no event between the head and the cursor is missed by the pages
* `Polled.covers` — the invariant, along every history
* `Relayer.pollContract_covers` — the law of polls
-/

namespace ChainRelay

variable {σ τ : Type}

/-! ### Pages of a log -/

namespace Relayer

variable {last : Option String}

/-- What is newer than the cursor on a page is what is newer than the cursor in the log, cut to the
page. -/
theorem newerThan_page {log : List ContractEvent} {offset : ℕ}
    (h : offset ≤ (newerThan last log).length) (size : ℕ) :
    newerThan last ((log.drop offset).take size) =
      ((newerThan last log).drop offset).take size := by
  have hdrop : newerThan last (log.drop offset) = (newerThan last log).drop offset := by
    induction log generalizing offset with
    | nil => simp [newerThan]
    | cons event rest ih =>
      have hcons : newerThan last (event :: rest) =
          if some event.id != last then event :: newerThan last rest else [] := List.takeWhile_cons
      cases offset with
      | zero => rfl
      | succ offset =>
        rw [hcons] at h ⊢
        split at h
        · rename_i hnew
          rw [if_pos hnew]
          exact ih (Nat.le_of_succ_le_succ h)
        · cases h
  rw [newerThan, ← List.take_takeWhile]
  exact congrArg (List.take size) hdrop

/-- Events that arrive are newer than the cursor. -/
theorem newerThan_append {arrived log : List ContractEvent}
    (h : ∀ event ∈ arrived, some event.id ≠ last) :
    newerThan last (arrived ++ log) = arrived ++ newerThan last log :=
  List.takeWhile_append_of_pos fun event hevent => by simpa using h event hevent

theorem newerThan_length_le (last : Option String) (log : List ContractEvent) :
    (newerThan last log).length ≤ log.length :=
  (List.takeWhile_prefix _).length_le

end Relayer

/-! ### A chain that serves a log -/

/-- The chain serves the events of a contract from a log, which depends on its state. -/
structure EventLog (r : Relayer σ) (contract : String) (log : σ → List ContractEvent) : Prop where
  /-- A page is the part of the log that was asked for, if there is an answer. -/
  serves : ∀ (s : σ) (offset size : ℕ),
    (∃ fault, (r.collaborators.chain.events contract offset size s).1 = .error fault) ∨
      (r.collaborators.chain.events contract offset size s).1 =
        .ok (((log s).drop offset).take size)
  /-- New events come first. -/
  grows : ∀ (s : σ) (offset size : ℕ),
    log s <:+ log (r.collaborators.chain.events contract offset size s).2
  /-- No two events have the same id. -/
  distinct : ∀ s, ((log s).map ContractEvent.id).Nodup

/-- A page of events was asked for. -/
def Event.isPage : Event → Bool
  | eventsRead _ _ _ _ => true
  | _ => false

namespace EventLog

variable {r : Relayer σ} {contract : String} {log : σ → List ContractEvent} {last : Option String}

/-- Events that arrive do not bring back the id of an event that was there. -/
theorem arrived_ne (h : EventLog r contract log) {s : σ} {arrived old : List ContractEvent}
    (hlog : log s = arrived ++ old) (hlast : ∀ id, last = some id → id ∈ old.map ContractEvent.id) :
    ∀ event ∈ arrived, some event.id ≠ last := by
  rintro event hevent hsame
  have hdistinct := h.distinct s
  rw [hlog, List.map_append] at hdistinct
  exact List.disjoint_of_nodup_append hdistinct (List.mem_map_of_mem hevent)
    (hlast event.id hsame.symm)

/-- One page is asked for: what has become of the world, and what was answered. -/
theorem ask_apply (h : EventLog r contract log) (offset size : ℕ) (w : World σ τ) :
    ∃ answer w', (Work.ask (r.collaborators.chain.events contract offset size)
        (.eventsRead contract offset size) : Work σ τ _) w = (answer.mapError .fault, w') ∧
      w.Later w' [.eventsRead contract offset size answer] ∧ log w.env <:+ log w'.env ∧
      ((∃ fault, answer = .error fault) ∨
        answer = .ok (((log w.env).drop offset).take size)) :=
  ⟨_, _, Work.ask_apply _ _ _, ⟨_, w.journal, rfl⟩, h.grows w.env offset size,
    h.serves w.env offset size⟩

end EventLog

namespace Relayer

variable {r : Relayer σ} {contract : String} {log : σ → List ContractEvent} {last : Option String}

/-- What was read from `offset` on, if `log` was there at first: everything that is newer than the
cursor, beginning with the newest event. -/
def ReadFrom (last : Option String) (log : List ContractEvent) (offset : ℕ)
    (fresh : List ContractEvent) : Prop :=
  (newerThan last log).drop offset ⊆ fresh ∧
    (offset ≤ (newerThan last log).length → fresh.head? = ((newerThan last log).drop offset).head?)

/-- A page that is not full, or on which the cursor is met, is the last one. -/
theorem readFrom_last {events : List ContractEvent} {offset size : ℕ}
    (hsize : 0 < size)
    (hend : ((events.drop offset).take size = [] ∨
      (newerThan last ((events.drop offset).take size)).length <
        ((events.drop offset).take size).length) ∨
      ((events.drop offset).take size).length < size) :
    ReadFrom last events offset (newerThan last ((events.drop offset).take size)) := by
  have hle := newerThan_length_le last events
  rcases Nat.lt_or_ge (newerThan last events).length offset with hlt | hge
  · -- the cursor was met before
    refine ⟨?_, fun h => absurd h (Nat.not_le.mpr hlt)⟩
    rw [List.drop_eq_nil_of_le (Nat.le_of_lt hlt)]
    exact List.nil_subset _
  · rw [newerThan_page hge] at hend ⊢
    have hall : ((newerThan last events).drop offset).take size =
        (newerThan last events).drop offset := by
      refine List.take_of_length_le ?_
      simp only [List.length_take, List.length_drop, List.take_eq_nil_iff,
        List.drop_eq_nil_iff] at hend ⊢
      omega
    rw [hall]
    exact ⟨List.Subset.refl _, fun _ => rfl⟩

/-- A page that is full, and on which the cursor was not met, is followed by another one of a log
that may have grown. -/
theorem readFrom_next {events arrived older : List ContractEvent} {offset size : ℕ}
    (hsize : 0 < size) (hnew : ∀ event ∈ arrived, some event.id ≠ last)
    (holder : ReadFrom last (arrived ++ events) (offset + size) older)
    (hfull : (newerThan last ((events.drop offset).take size)).length = size) :
    ReadFrom last events offset (newerThan last ((events.drop offset).take size) ++ older) := by
  rcases Nat.lt_or_ge (newerThan last events).length offset with hlt | hge
  · refine ⟨?_, fun h => absurd h (Nat.not_le.mpr hlt)⟩
    rw [List.drop_eq_nil_of_le (Nat.le_of_lt hlt)]
    exact List.nil_subset _
  · rw [newerThan_page hge] at hfull ⊢
    obtain ⟨newer, hnewer⟩ : ∃ newer, newerThan last events = newer := ⟨_, rfl⟩
    rw [ReadFrom, newerThan_append hnew, hnewer, List.drop_append] at holder
    rw [hnewer] at hfull
    rw [ReadFrom, hnewer]
    constructor
    · intro event hevent
      rw [← List.take_append_drop size (newer.drop offset), List.drop_drop] at hevent
      rcases List.mem_append.mp hevent with htake | hdrop
      · exact List.mem_append_left _ htake
      · -- what is left on the log is further behind now
        refine List.mem_append_right _ (holder.1 (List.mem_append_right _ ?_))
        have hback : newer.drop (offset + size) <:+
            newer.drop (offset + size - arrived.length) :=
          List.drop_suffix_drop_left newer (Nat.sub_le _ _)
        exact hback.subset hdrop
    · intro _
      rw [List.head?_append, List.head?_take, if_neg (Nat.ne_of_gt hsize)]
      cases hdrop : newer.drop offset with
      | nil =>
        rw [hdrop, List.take_nil] at hfull
        exact absurd hfull (Nat.ne_of_lt hsize)
      | cons event rest => rfl

/-- **Nothing is missed between pages.** However the log grows while it is read, what is newer than
the cursor is on the pages, if they come to an end. -/
theorem readPages_covers (hlog : EventLog r contract log) (size : ℕ) (hsize : 0 < size)
    (pages offset : ℕ) (w : World σ τ)
    (hlast : ∀ id, last = some id → id ∈ (log w.env).map ContractEvent.id) :
    ∃ events, w.Later (r.readPages contract last size pages offset w).2 events ∧
      (∀ e ∈ events, e.isPage = true) ∧
      log w.env <:+ log (r.readPages contract last size pages offset w).2.env ∧
      ∀ fresh, (r.readPages contract last size pages offset w).1 = .ok fresh →
        ReadFrom last (log w.env) offset fresh := by
  induction pages generalizing offset w with
  | zero => exact ⟨[], World.Later.refl w, by simp, List.suffix_rfl, fun fresh h => by cases h⟩
  | succ pages ih =>
    obtain ⟨answer, w₁, hask, later₁, hgrows, hserves⟩ := hlog.ask_apply offset size w
    rw [readPages, Work.bind_apply, hask]
    rcases hserves with ⟨fault, rfl⟩ | rfl
    · exact ⟨_, later₁, by simp [Event.isPage], hgrows, fun fresh h => by cases h⟩
    · obtain ⟨page, hpage⟩ : ∃ page, ((log w.env).drop offset).take size = page := ⟨_, rfl⟩
      have hlength : page.length ≤ size := by
        rw [← hpage]
        exact List.length_take_le _ _
      have hfresh := newerThan_length_le last page
      have hasked : ∀ e ∈ [Event.eventsRead contract offset size (.ok page)],
          e.isPage = true := by
        simp [Event.isPage]
      rw [hpage] at later₁ ⊢
      dsimp only [Except.mapError]
      split
      · -- the last page
        rename_i hend
        simp only [Bool.or_eq_true, List.isEmpty_iff, decide_eq_true_eq, Int.ofNat_lt] at hend
        refine ⟨_, later₁, hasked, hgrows, fun fresh h => ?_⟩
        cases h
        rw [← hpage] at hend ⊢
        exact readFrom_last hsize hend
      · rename_i hmore
        simp only [Bool.or_eq_true, List.isEmpty_iff, decide_eq_true_eq, Int.ofNat_lt,
          not_or, Nat.not_lt] at hmore
        have hpageLength : page.length = size := Nat.le_antisymm hlength hmore.2
        have hoffset : (offset : Int) + (page.length : Int) = ((offset + size : ℕ) : Int) := by
          rw [hpageLength, Int.natCast_add]
        obtain ⟨arrived, harrived⟩ := hgrows
        have hlast₁ : ∀ id, last = some id → id ∈ (log w₁.env).map ContractEvent.id := by
          intro id hid
          rw [← harrived, List.map_append]
          exact List.mem_append_right _ (hlast id hid)
        obtain ⟨events, later₂, hpages, hgrows₂, hread⟩ := ih (offset + size) w₁ hlast₁
        rw [← hoffset] at later₂ hgrows₂ hread
        rw [Work.bind_apply]
        cases hrest : r.readPages contract last size pages (offset + page.length) w₁ with
        | mk result w₂ =>
          rw [hrest] at later₂ hgrows₂ hread
          have hall : ∀ e ∈ [Event.eventsRead contract offset size (.ok page)] ++ events,
              e.isPage = true := List.forall_mem_append.mpr ⟨hasked, hpages⟩
          have hsuffix : log w.env <:+ log w₂.env :=
            List.IsSuffix.trans ⟨arrived, harrived⟩ hgrows₂
          cases result with
          | error halt => exact ⟨_, later₁.trans later₂, hall, hsuffix, fun fresh h => by cases h⟩
          | ok older =>
            refine ⟨_, later₁.trans later₂, hall, hsuffix, fun fresh h => ?_⟩
            cases h
            have holder := hread older rfl
            rw [← harrived] at holder
            have hfull : (newerThan last page).length = size :=
              Nat.le_antisymm (Nat.le_trans hfresh hlength) (hpageLength ▸ hmore.1.2)
            rw [← hpage] at hfull ⊢
            exact readFrom_next hsize (hlog.arrived_ne harrived.symm hlast) holder hfull

end Relayer

/-! ### What a cursor covers -/

/-- The cursor of a contract. -/
def World.eventCursor? (w : World σ τ) (name : String) : Option String :=
  w.cursors.lookup (Relayer.eventCursor name)

/-- The row of the transaction of an event. -/
def ContractEvent.rowKey (event : ContractEvent) : RowKey := (.crossChainTransaction, event.txId)

/-- A cursor is an event of the log, and each event that is relayed has exactly one row if it is at
the cursor or older. -/
def Covers (log : List ContractEvent) (keys : List RowKey) (cursor : String) : Prop :=
  ∃ newer event older, log = newer ++ event :: older ∧ event.id = cursor ∧
    ∀ e ∈ event :: older, e.type = Relayer.relayedType → keys.count e.rowKey = 1

/-- A log may grow, and rows may be added. -/
theorem Covers.mono {log log' : List ContractEvent} {keys keys' : List RowKey} {cursor : String}
    (h : Covers log keys cursor) (hlog : log <:+ log') (hkeys : keys ⊆ keys')
    (hdistinct : keys'.Nodup) : Covers log' keys' cursor := by
  obtain ⟨arrived, rfl⟩ := hlog
  obtain ⟨newer, event, older, rfl, hcursor, hrows⟩ := h
  refine ⟨arrived ++ newer, event, older, by simp, hcursor, fun e he hrelayed => ?_⟩
  have hmem : e.rowKey ∈ keys := List.count_pos_iff.mp (by rw [hrows e he hrelayed]; decide)
  exact List.count_eq_one_of_mem hdistinct (hkeys hmem)

/-- What holds between polls: there is one row for a key, and the cursor covers the log behind
it. -/
structure Covered (log : σ → List ContractEvent) (name : String) (w : World σ τ) : Prop where
  distinct : w.store.keys.Nodup
  covers : ∀ id, w.eventCursor? name = some id → Covers (log w.env) w.store.keys id

namespace Covered

variable {log : σ → List ContractEvent} {name : String} {w w' : World σ τ}

theorem mem_log (h : Covered log name w) {id : String} (hid : w.eventCursor? name = some id) :
    id ∈ (log w.env).map ContractEvent.id := by
  obtain ⟨newer, event, older, hlog, rfl, -⟩ := h.covers id hid
  rw [hlog]
  exact List.mem_map_of_mem (by simp)

/-- As long as nobody sets the cursor or removes a row, it covers what it covered. -/
theorem of_le (h : Covered log name w) (hlog : log w.env <:+ log w'.env)
    (hcursor : w'.eventCursor? name = w.eventCursor? name) (hkeys : w.store.keys ⊆ w'.store.keys)
    (hdistinct : w'.store.keys.Nodup) : Covered log name w' where
  distinct := hdistinct
  covers := fun id hid => (h.covers id (hcursor ▸ hid)).mono hlog hkeys hdistinct

end Covered

/-! ### One poll -/

/-- What a poll that began in `w` owes to the log. -/
structure PollLaw (log : σ → List ContractEvent) (name : String) (w : World σ τ)
    (run : Except Halt Nat × World σ τ) : Prop where
  /-- There is a cursor after a poll that has found an event. -/
  unread : ∀ n, run.1 = .ok n → run.2.eventCursor? name = none → log w.env = []
  /-- The cursor is an event of the log, and covers what is at it or older. -/
  covered : Covered log name run.2
  /-- The cursor is never lost, and moves to newer events only. -/
  forward : ∀ id, w.eventCursor? name = some id → ∃ newer event older,
    log run.2.env = newer ++ event :: older ∧ run.2.eventCursor? name = some event.id ∧
      id ∈ (event :: older).map ContractEvent.id
  /-- If the first page begins with the cursor, pages are read and that is all. -/
  idle : ∀ event rest, log w.env = event :: rest → w.eventCursor? name = some event.id →
    ∃ pages, w.Later run.2 pages ∧ ∀ e ∈ pages, e.isPage = true
  /-- A poll that halts has read pages and that is all. -/
  halted : ∀ halt, run.1 = .error halt →
    ∃ pages, w.Later run.2 pages ∧ ∀ e ∈ pages, e.isPage = true

namespace Relayer

variable {r : Relayer σ} {contract name : String} {log : σ → List ContractEvent}
  {last : Option String}

/-- The events of a poll, oldest first. -/
theorem newEvents_apply (r : Relayer σ) (contract : String) (last : Option String) (size : Int)
    (w : World σ τ) : r.newEvents contract last size w =
      ((r.readPages contract last size r.pageLimit 0 w).1.map List.reverse,
        (r.readPages contract last size r.pageLimit 0 w).2) := by
  rw [newEvents, Work.bind_apply]
  cases r.readPages contract last size r.pageLimit 0 w with
  | mk result w' => cases result <;> rfl

/-- A poll that finds nothing new or halts has read pages and that is all. -/
theorem pollContract_of_nothing {w w' : World σ τ} {result : Except Halt (List ContractEvent)}
    (hread : r.readPages contract (w.eventCursor? name) eventPageSize r.pageLimit 0 w =
      (result, w')) (hnothing : ∀ fresh, result = .ok fresh → fresh = []) :
    r.pollContract name contract w = (result.map fun _ => 0, w') := by
  have hcursor : (Work.cursor? (eventCursor name) : Work σ τ _) w =
      (.ok (w.eventCursor? name), w) := rfl
  have hevents := r.newEvents_apply contract (w.eventCursor? name) eventPageSize w
  rw [hread] at hevents
  rw [pollContract, Work.bind_apply_of_ok hcursor, Work.bind_apply, hevents]
  cases result with
  | error halt => rfl
  | ok fresh =>
    cases hnothing fresh rfl
    rfl

/-- A poll that finds new events writes their transactions and then the newest event. -/
theorem pollContract_of_news {w w' : World σ τ} {newest : ContractEvent}
    {older : List ContractEvent}
    (hread : r.readPages contract (w.eventCursor? name) eventPageSize r.pageLimit 0 w =
      (.ok (newest :: older), w')) :
    ∃ store trace journal, r.pollContract name contract w =
        (.ok (older.length + 1), { w' with
          store, trace, journal
          cursors := Work.putCursor w'.cursors (eventCursor name) newest.id }) ∧
      w'.store.keys ⊆ store.keys ∧ (w'.store.keys.Nodup → store.keys.Nodup) ∧
      ∀ e ∈ newest :: older, e.type = relayedType → e.rowKey ∈ store.keys := by
  have hcursor : (Work.cursor? (eventCursor name) : Work σ τ _) w =
      (.ok (w.eventCursor? name), w) := rfl
  have hevents : r.newEvents contract (w.eventCursor? name) eventPageSize w =
      (.ok (newest :: older).reverse, w') := by
    rw [newEvents_apply, hread]
    rfl
  have hnewest : (newest :: older).reverse.getLast? = some newest := by
    rw [List.getLast?_reverse, List.head?_cons]
  have hlength : (newest :: older).reverse.length = older.length + 1 := by
    rw [List.length_reverse, List.length_cons]
  obtain ⟨answers, store, trace, hupsert, hkept, hwritten, hdistinct⟩ := Work.upsertAll_apply
    ((relayedTransactions (newest :: older).reverse).map seenTransaction) w'
  rw [pollContract, Work.bind_apply_of_ok hcursor, Work.bind_apply_of_ok hevents, hnewest, hlength]
  dsimp only
  rw [Work.bind_apply_of_ok hupsert]
  refine ⟨store, _, _, rfl, hkept, hdistinct, fun e he hrelayed => ?_⟩
  refine hwritten _ (List.mem_map.mpr ⟨e.txId, ?_, rfl⟩)
  rw [relayedTransactions, List.mem_eraseDups]
  exact List.mem_map.mpr ⟨e, List.mem_filter.mpr ⟨List.mem_reverse.mpr he, by simpa using hrelayed⟩,
    rfl⟩

/-- Without a cursor every event is new. -/
theorem newerThan_none (events : List ContractEvent) : newerThan none events = events := by
  have h : newerThan none (events ++ []) = events ++ newerThan none [] :=
    newerThan_append fun _ _ h => by cases h
  rw [List.append_nil] at h
  exact h.trans (List.append_nil events)

/-- An event of the log is newer than the cursor, or it is covered. -/
theorem newer_or_covered (hlog : EventLog r contract log) {w : World σ τ}
    (h : Covered log name w) {e : ContractEvent} (he : e ∈ log w.env) :
    e ∈ newerThan (w.eventCursor? name) (log w.env) ∨
      (e.type = relayedType → e.rowKey ∈ w.store.keys) := by
  cases hcursor : w.eventCursor? name with
  | none =>
    rw [newerThan_none]
    exact .inl he
  | some id =>
    obtain ⟨newer, event, older, hevents, rfl, hrows⟩ := h.covers id hcursor
    have hnew : ∀ e ∈ newer, some e.id ≠ some event.id :=
      hlog.arrived_ne hevents fun id hid => by cases hid; simp
    rw [hevents] at he ⊢
    rcases List.mem_append.mp he with hnewer | hbehind
    · rw [newerThan_append hnew]
      exact .inl (List.mem_append_left _ hnewer)
    · refine .inr fun hrelayed => List.count_pos_iff.mp ?_
      rw [hrows e hbehind hrelayed]
      decide

/-- A poll that has not found anything new, or has not come to an end, leaves the cursor where it
was. -/
theorem pollLaw_of_nothing {w w' : World σ τ} {run : Except Halt Nat × World σ τ}
    (h : Covered log name w) (hrun : run.2 = w') {pages : List Event} (later : w.Later w' pages)
    (hpages : ∀ e ∈ pages, e.isPage = true) (hgrows : log w.env <:+ log w'.env)
    (hnothing : ∀ n, run.1 = .ok n → newerThan (w.eventCursor? name) (log w.env) = []) :
    PollLaw log name w run := by
  subst hrun
  have hsame : run.2.eventCursor? name = w.eventCursor? name ∧ run.2.store = w.store := by
    obtain ⟨env, journal, hw'⟩ := later
    rw [hw']
    exact ⟨rfl, rfl⟩
  have hcovered : Covered log name run.2 := by
    refine h.of_le hgrows hsame.1 ?_ ?_
    · rw [hsame.2]
      exact List.Subset.refl _
    · rw [hsame.2]
      exact h.distinct
  refine ⟨fun n hn hnone => ?_, hcovered, fun id hid => ?_, fun _ _ _ _ => ⟨pages, later, hpages⟩,
    fun _ _ => ⟨pages, later, hpages⟩⟩
  · have hnil := hnothing n hn
    rw [← hsame.1, hnone, newerThan_none] at hnil
    exact hnil
  · have hid' := hsame.1.trans hid
    obtain ⟨newer, event, older, hevents, rfl, -⟩ := hcovered.covers id hid'
    exact ⟨newer, event, older, hevents, hid', by simp⟩

/-- A poll that has found new events moves the cursor to the newest one on its first page. -/
theorem pollLaw_of_news (hlog : EventLog r contract log) {w w' : World σ τ}
    (h : Covered log name w) {pages : List Event} (later : w.Later w' pages)
    (hgrows : log w.env <:+ log w'.env) {newest : ContractEvent} {older : List ContractEvent}
    (hread : r.readPages contract (w.eventCursor? name) eventPageSize r.pageLimit 0 w =
      (.ok (newest :: older), w'))
    (hfresh : ReadFrom (w.eventCursor? name) (log w.env) 0 (newest :: older)) :
    PollLaw log name w (r.pollContract name contract w) := by
  obtain ⟨hsubset, hhead⟩ := hfresh
  -- the newest event is at the head of the log as it was at first
  obtain ⟨rest, hnewer⟩ : ∃ rest,
      newerThan (w.eventCursor? name) (log w.env) = newest :: rest := by
    have hhead := hhead (Nat.zero_le _)
    rw [List.head?_cons, List.drop_zero] at hhead
    exact ⟨_, (List.cons_head?_tail hhead.symm).symm⟩
  obtain ⟨behind, hevents⟩ : ∃ behind, log w.env = newest :: behind := by
    obtain ⟨behind, hbehind⟩ : newest :: rest <+: log w.env := by
      rw [← hnewer]
      exact List.takeWhile_prefix _
    exact ⟨rest ++ behind, hbehind.symm⟩
  obtain ⟨arrived, harrived⟩ := hgrows
  obtain ⟨store, trace, journal, hpoll, hkept, hdistinct, hwritten⟩ := pollContract_of_news hread
  have hstore : w'.store = w.store := later.store_eq
  rw [hpoll]
  have hcursor : ({ w' with
      store, trace, journal
      cursors := Work.putCursor w'.cursors (eventCursor name) newest.id } :
        World σ τ).eventCursor? name = some newest.id := by
    rw [World.eventCursor?, Work.lookup_putCursor, if_pos rfl]
  have hnodup : store.keys.Nodup := hdistinct (hstore ▸ h.distinct)
  refine ⟨fun n _ hnone => ?_, ⟨hnodup, fun id hid => ?_⟩, fun id hid => ?_,
    fun event rest' hhead hid => ?_, fun halt h => by cases h⟩
  · cases hcursor.symm.trans hnone
  · cases hcursor.symm.trans hid
    refine ⟨arrived, newest, behind, ?_, rfl, fun e he hrelayed => ?_⟩
    · rw [← hevents]
      exact harrived.symm
    · refine List.count_eq_one_of_mem hnodup ?_
      rw [← hevents] at he
      rcases newer_or_covered hlog h he with hnew | hcovered
      · exact hwritten e (hsubset hnew) hrelayed
      · exact hkept (hstore ▸ hcovered hrelayed)
  · refine ⟨arrived, newest, behind, ?_, hcursor, ?_⟩
    · rw [← hevents]
      exact harrived.symm
    · rw [← hevents]
      exact h.mem_log hid
  · -- the cursor would not be at the head then
    rw [hhead, hid] at hnewer
    simp [newerThan] at hnewer

/-- **One poll.** If the cursor covers the log behind it, it does so after the poll. -/
theorem pollContract_law (hlog : EventLog r contract log) {w : World σ τ}
    (h : Covered log name w) : PollLaw log name w (r.pollContract name contract w) := by
  obtain ⟨pages, later, hpages, hgrows, hread⟩ :
      ∃ pages, w.Later (r.readPages contract (w.eventCursor? name) eventPageSize r.pageLimit 0
          w).2 pages ∧ (∀ e ∈ pages, e.isPage = true) ∧
        log w.env <:+ log (r.readPages contract (w.eventCursor? name) eventPageSize r.pageLimit 0
          w).2.env ∧
        ∀ fresh, (r.readPages contract (w.eventCursor? name) eventPageSize r.pageLimit 0 w).1 =
          .ok fresh → ReadFrom (w.eventCursor? name) (log w.env) 0 fresh :=
    readPages_covers hlog 50 (by decide) r.pageLimit 0 w fun id hid => h.mem_log hid
  cases hrun : r.readPages contract (w.eventCursor? name) eventPageSize r.pageLimit 0 w with
  | mk result w' =>
    rw [hrun] at later hgrows hread
    match result with
    | .error halt =>
      rw [pollContract_of_nothing hrun fun _ h => by cases h]
      exact pollLaw_of_nothing h rfl later hpages hgrows fun _ h => by cases h
    | .ok [] =>
      rw [pollContract_of_nothing hrun fun _ h => by cases h; rfl]
      refine pollLaw_of_nothing h rfl later hpages hgrows fun _ _ => ?_
      exact List.subset_nil.mp (hread [] rfl).1
    | .ok (newest :: older) =>
      exact pollLaw_of_news hlog h later hgrows hrun (hread _ rfl)

end Relayer

/-! ### Histories -/

/-- The histories of a relayer that polls a contract whose events make up `log`, by the worlds that
they lead to. -/
inductive Polled (r : Relayer σ) (name contract : String) (log : σ → List ContractEvent) :
    World σ τ → Prop
  /-- At first there is no cursor. -/
  | start {w : World σ τ} (unread : w.eventCursor? name = none)
      (distinct : w.store.keys.Nodup) : Polled r name contract log w
  /-- Between polls the log may grow, and rows may be written. -/
  | pause {w w' : World σ τ} (h : Polled r name contract log w)
      (grows : log w.env <:+ log w'.env) (cursor : w'.eventCursor? name = w.eventCursor? name)
      (keys : w.store.keys ⊆ w'.store.keys) (distinct : w'.store.keys.Nodup) :
      Polled r name contract log w'
  /-- The contract is polled. -/
  | poll {w : World σ τ} (h : Polled r name contract log w) :
      Polled r name contract log (r.pollContract name contract w).2

/-- **The invariant of polling.** At every point of a history the cursor covers the log behind
it. -/
theorem Polled.covered {r : Relayer σ} {name contract : String} {log : σ → List ContractEvent}
    (hlog : EventLog r contract log) {w : World σ τ} (h : Polled r name contract log w) :
    Covered log name w := by
  induction h with
  | start unread distinct =>
    exact ⟨distinct, fun id hid => by cases unread.symm.trans hid⟩
  | pause _ grows cursor keys distinct ih => exact ih.of_le grows cursor keys distinct
  | poll _ ih => exact (Relayer.pollContract_law hlog ih).covered

namespace Relayer

/-- **Polling loses nothing.** Whatever events arrive between polls and between the pages of a poll:
every event that is relayed and is at the cursor or older has exactly one row; the cursor is missing
only as long as there was nothing to read, and it never moves back; and a poll whose first page
begins with the cursor writes nothing. -/
theorem pollContract_covers {r : Relayer σ} {name contract : String}
    {log : σ → List ContractEvent} (hlog : EventLog r contract log) {w : World σ τ}
    (h : Polled r name contract log w) : PollLaw log name w (r.pollContract name contract w) :=
  pollContract_law hlog (h.covered hlog)

/-- A log before and after its second event. -/
def growingLog (arrived : Bool) : List ContractEvent :=
  let first : ContractEvent := ⟨"0x01", 0, relayedType, "gateway", "", "0x"⟩
  if arrived then [⟨"0x02", 0, relayedType, "gateway", "", "0x"⟩, first] else [first]

/-- A relayer whose chain serves this log. The second event arrives with the first answer. -/
def pollingRelayer : Relayer (Simulation × Bool) where
  collaborators :=
    let plain := Simulation.collaborators.onFirst Bool
    { plain with
      chain := { plain.chain with
        events := fun _ offset limit s =>
          (.ok (((growingLog s.2).drop offset.toNat).take limit.toNat), (s.1, true)) } }
  settings := {}
  services := ⟨"hub-token-service", "token-service"⟩

/-- The second poll of a relayer that has seen the first event only. -/
theorem pollContract_covers_second :
    EventLog pollingRelayer "gateway" (fun s => growingLog s.2) ∧
    Polled pollingRelayer "gateway" "gateway" (fun s => growingLog s.2)
      (pollingRelayer.pollContract "gateway" "gateway" (World.initial ({}, false) ())).2 ∧
    PollLaw (fun s => growingLog s.2) "gateway"
      (pollingRelayer.pollContract "gateway" "gateway" (World.initial ({}, false) ())).2
      (pollingRelayer.pollContract "gateway" "gateway"
        (pollingRelayer.pollContract "gateway" "gateway" (World.initial ({}, false) ())).2) := by
  have hdistinct : ∀ arrived, ((growingLog arrived).map ContractEvent.id).Nodup := by decide
  have hgrows : ∀ arrived, growingLog arrived <:+ growingLog true := by decide
  have hlog : EventLog pollingRelayer "gateway" fun s => growingLog s.2 :=
    ⟨fun s offset size => .inr rfl, fun s offset size => hgrows s.2, fun s => hdistinct s.2⟩
  have hpolled : Polled pollingRelayer "gateway" "gateway" (fun s => growingLog s.2)
      (pollingRelayer.pollContract "gateway" "gateway" (World.initial ({}, false) ())).2 :=
    .poll (.start rfl List.nodup_nil)
  exact ⟨hlog, hpolled, pollContract_covers hlog hpolled⟩

end Relayer

end ChainRelay
