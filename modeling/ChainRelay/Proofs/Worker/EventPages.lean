import ChainRelay.Proofs.Worker.EventCoverage

/-!
# Pages of any length

A source splits its log into pages as it likes: a page may be shorter than what was asked for
although the log goes on behind it. Reading goes on from where a page ends, whatever its length, but
it stops behind a page that is not full.

## The contract

The log does not change while it is read, and no two of its events have the same id. A page is a
beginning of what the log has from the offset on, and empty only at its end. The cursor may be
missing, or may be none of the log. The log may be of any length: the bound on the number of pages
lies beyond it and has no say in the result.

What is returned is complete, then, if the pages came to the cursor or to the end of the log. If
they stopped at a page that was not full, it is what the pages held, and whatever is behind them is
left out. A source that fills its pages has no such page.

## Main definitions

* `PagedLog`, `FillsPages` — sources that serve a fixed log
* `NewerPart` — the events of a log that are newer than the cursor
* `Reading` — the two ways in which reading may end

## Main results

* `Relayer.readPages_reading` — reading from an offset on
* `Relayer.newEvents_collects` — what is returned for a log
* `Relayer.newEvents_overlooks` — an event behind a page that is not full
-/

namespace ChainRelay

variable {σ τ : Type}

/-! ### Sources and cursors -/

/-- The chain serves a fixed log of a contract, in pages of any length. -/
structure PagedLog (r : Relayer σ) (contract : String) (log : List ContractEvent) : Prop where
  /-- A page is a beginning of the part of the log that was asked for, and empty only at its end. -/
  serves : ∀ (s : σ) (offset size : ℕ), 0 < size → ∃ page,
    (r.collaborators.chain.events contract offset size s).1 = .ok page ∧
      page <+: log.drop offset ∧ page.length ≤ size ∧ (page = [] → log.length ≤ offset)
  /-- No two events have the same id. -/
  distinct : (log.map ContractEvent.id).Nodup

/-- A page holds all that was asked for, as far as the log has so much. -/
def FillsPages (r : Relayer σ) (contract : String) (log : List ContractEvent) : Prop :=
  ∀ (s : σ) (offset size : ℕ), (r.collaborators.chain.events contract offset size s).1 =
    .ok ((log.drop offset).take size)

/-- The events of a log, newest first, that are newer than the cursor. -/
inductive NewerPart (last : Option String) : List ContractEvent → List ContractEvent → Prop
  /-- They come before the event of the cursor. -/
  | before (newer : List ContractEvent) (event : ContractEvent) (older : List ContractEvent)
      (cursor : last = some event.id) : NewerPart last (newer ++ event :: older) newer
  /-- If there is no such event, all are. -/
  | all {log : List ContractEvent} (unseen : ∀ event ∈ log, last ≠ some event.id) :
      NewerPart last log log

namespace NewerPart

variable {last : Option String} {log newer newer' : List ContractEvent}

/-- Events in front that are not the one of the cursor are newer. -/
theorem append (h : NewerPart last log newer) {front : List ContractEvent}
    (hunseen : ∀ event ∈ front, last ≠ some event.id) :
    NewerPart last (front ++ log) (front ++ newer) := by
  cases h with
  | before newer event older hcursor =>
    rw [← List.append_assoc]
    exact .before _ event older hcursor
  | all hrest => exact .all (List.forall_mem_append.mpr ⟨hunseen, hrest⟩)

theorem starts_log (h : NewerPart last log newer) : newer <+: log := by
  cases h with
  | before newer event older _ => exact List.prefix_append _ _
  | all _ => exact List.prefix_rfl

/-- In a log with distinct events they are the ones up to the first event of the cursor. -/
theorem eq_newerThan (h : NewerPart last log newer)
    (hdistinct : (log.map ContractEvent.id).Nodup) : newer = Relayer.newerThan last log := by
  cases h with
  | before newer event older hcursor =>
    have hnew : ∀ e ∈ newer, some e.id ≠ last := by
      rw [hcursor]
      intro e he hsame
      rw [List.map_append, List.map_cons] at hdistinct
      refine List.disjoint_of_nodup_append hdistinct (List.mem_map_of_mem he) ?_
      rw [Option.some.inj hsame]
      exact List.mem_cons_self
    rw [Relayer.newerThan_append hnew, hcursor]
    simp [Relayer.newerThan]
  | all hunseen =>
    have hnew : ∀ e ∈ log, some e.id ≠ last := fun e he hsame => hunseen e he hsame.symm
    have happend : Relayer.newerThan last (log ++ []) = log ++ Relayer.newerThan last [] :=
      Relayer.newerThan_append hnew
    rw [List.append_nil] at happend
    rw [happend, Relayer.newerThan, List.takeWhile_nil, List.append_nil]

/-- There is one part of such a log that is newer. -/
theorem unique (h : NewerPart last log newer) (hdistinct : (log.map ContractEvent.id).Nodup)
    (h' : NewerPart last log newer') : newer = newer' :=
  (h.eq_newerThan hdistinct).trans (h'.eq_newerThan hdistinct).symm

end NewerPart

/-- How the reading of a log from an offset on may end: with these events, newest first, and this
record. -/
inductive Reading (r : Relayer σ) (contract : String) (log : List ContractEvent)
    (last : Option String) (size offset : ℕ) (fresh : List ContractEvent) (events : List Event) :
    Prop
  /-- The cursor was met, or the end of the log. -/
  | complete (newer : NewerPart last (log.drop offset) fresh)
  /-- The last page was not full, and there is more behind it. -/
  | stopped {earlier : List Event} {position : ℕ} {page : List ContractEvent}
      (record : events = earlier ++ [.eventsRead contract position size (.ok page)])
      (answered : ∃ s, (r.collaborators.chain.events contract position size s).1 = .ok page)
      (short : page.length < size) (more : position + page.length < log.length)
      (read : fresh ++ log.drop (position + page.length) = log.drop offset)
      (unseen : ∀ event ∈ fresh, last ≠ some event.id)

/-! ### Reading page by page -/

section

variable {r : Relayer σ} {contract : String} {log page : List ContractEvent}
  {last : Option String} {size offset : ℕ}

/-- One page is asked for. -/
theorem PagedLog.ask_apply (h : PagedLog r contract log) (offset : ℕ) (hsize : 0 < size)
    (w : World σ τ) :
    ∃ page w', (Work.ask (r.collaborators.chain.events contract offset size)
        (.eventsRead contract offset size) : Work σ τ _) w = (.ok page, w') ∧
      w.Later w' [.eventsRead contract offset size (.ok page)] ∧
      (∃ s, (r.collaborators.chain.events contract offset size s).1 = .ok page) ∧
      page <+: log.drop offset ∧ page.length ≤ size ∧ (page = [] → log.length ≤ offset) := by
  obtain ⟨page, hanswer, hpage⟩ := h.serves w.env offset size hsize
  have hask := Work.ask_apply (r.collaborators.chain.events contract offset size)
    (.eventsRead contract offset size) w
  rw [hanswer] at hask
  exact ⟨page, _, hask, ⟨_, w.journal, rfl⟩, ⟨w.env, hanswer⟩, hpage⟩

/-- A page holds the event of the cursor, or all of it is newer. -/
theorem Relayer.newerThan_cases (last : Option String) (page : List ContractEvent) :
    (∃ event older, page = newerThan last page ++ event :: older ∧ last = some event.id) ∨
      (newerThan last page = page ∧ ∀ event ∈ page, last ≠ some event.id) := by
  induction page with
  | nil => exact .inr ⟨rfl, by simp⟩
  | cons event rest ih =>
    by_cases hcursor : last = some event.id
    · exact .inl ⟨event, rest, by simp [newerThan, hcursor], hcursor⟩
    · have hcons : newerThan last (event :: rest) = event :: newerThan last rest :=
        List.takeWhile_cons_of_pos (by simpa using fun h => hcursor h.symm)
      rw [hcons]
      rcases ih with ⟨event', older, hrest, hcursor'⟩ | ⟨hall, hunseen⟩
      · exact .inl ⟨event', older, congrArg (event :: ·) hrest, hcursor'⟩
      · rw [hall]
        exact .inr ⟨rfl, List.forall_mem_cons.mpr ⟨hcursor, hunseen⟩⟩

namespace Reading

/-- What is behind a page of the log. -/
theorem drop_eq (hbegins : page <+: log.drop offset) :
    log.drop offset = page ++ log.drop (offset + page.length) := by
  obtain ⟨behind, hbehind⟩ := hbegins
  rw [← List.drop_drop, ← hbehind, List.drop_left]

/-- The last page. -/
theorem last_page (hanswered : ∃ s, (r.collaborators.chain.events contract offset size s).1 =
      .ok page)
    (hbegins : page <+: log.drop offset) (hempty : page = [] → log.length ≤ offset)
    (hlast : (page = [] ∨ (Relayer.newerThan last page).length < page.length) ∨
      page.length < size) :
    Reading r contract log last size offset (Relayer.newerThan last page)
      [.eventsRead contract offset size (.ok page)] := by
  have hdrop := drop_eq hbegins
  rcases Relayer.newerThan_cases last page with ⟨event, older, hpage, hcursor⟩ | ⟨hall, hunseen⟩
  · refine .complete ?_
    rw [hdrop]
    nth_rewrite 1 [hpage]
    rw [List.append_assoc, List.cons_append]
    exact .before _ event _ hcursor
  · rw [hall] at hlast ⊢
    by_cases hmore : offset + page.length < log.length
    · have hpage : page ≠ [] := fun hnil => by
        have := hempty hnil
        omega
      have hshort : page.length < size := by simpa [hpage] using hlast
      exact .stopped (List.nil_append _).symm hanswered hshort hmore hdrop.symm hunseen
    · -- the page goes to the end of the log
      refine .complete ?_
      rw [hdrop, List.drop_eq_nil_of_le (Nat.not_lt.mp hmore), List.append_nil]
      exact .all hunseen

/-- What is read are the newest events from the offset on. -/
theorem starts_log {fresh : List ContractEvent} {events : List Event}
    (h : Reading r contract log last size offset fresh events) : fresh <+: log.drop offset := by
  cases h with
  | complete hnewer => exact hnewer.starts_log
  | stopped _ _ _ _ hread _ => exact ⟨_, hread⟩

/-- A source that fills its pages does not stop the reading. -/
theorem newerPart_of_fills {fresh : List ContractEvent} {events : List Event}
    (h : Reading r contract log last size offset fresh events)
    (hfills : FillsPages r contract log) : NewerPart last (log.drop offset) fresh := by
  cases h with
  | complete hnewer => exact hnewer
  | @stopped earlier position page _ hanswered hshort hmore _ _ =>
    obtain ⟨s, hanswer⟩ := hanswered
    have hlength : page.length = min size (log.length - position) := by
      rw [← Except.ok.inj ((hfills s position size).symm.trans hanswer), List.length_take,
        List.length_drop]
    omega

/-- A page without the event of the cursor, and the reading of what is behind it. -/
theorem next_page (hbegins : page <+: log.drop offset)
    (hunseen : ∀ event ∈ page, last ≠ some event.id) (event : Event)
    {older : List ContractEvent} {events : List Event}
    (h : Reading r contract log last size (offset + page.length) older events) :
    Reading r contract log last size offset (page ++ older) (event :: events) := by
  have hdrop := drop_eq hbegins
  cases h with
  | complete hnewer =>
    refine .complete ?_
    rw [hdrop]
    exact hnewer.append hunseen
  | @stopped earlier position page' hrecord hanswered hshort hmore hread hrest =>
    have hlonger : event :: events =
        (event :: earlier) ++ [.eventsRead contract position size (.ok page')] := by
      rw [hrecord, List.cons_append]
    refine .stopped hlonger hanswered hshort hmore ?_
      (List.forall_mem_append.mpr ⟨hunseen, hrest⟩)
    rw [List.append_assoc, hread, hdrop]

end Reading

/-- **Reading from an offset on.** It comes to an end, after as many pages at most as there are
events, and one more. -/
theorem Relayer.readPages_reading (hlog : PagedLog r contract log) (hsize : 0 < size) (pages : ℕ)
    (hoffset : offset ≤ log.length) (hpages : log.length < offset + pages) (w : World σ τ) :
    ∃ fresh events w', r.readPages contract last size pages offset w = (.ok fresh, w') ∧
      w.Later w' events ∧ (∀ e ∈ events, e.isPage = true) ∧
      events.length ≤ log.length - offset + 1 ∧
      Reading r contract log last size offset fresh events := by
  induction pages generalizing offset w with
  | zero => omega
  | succ pages ih =>
    obtain ⟨page, w₁, hask, later, hanswered, hbegins, hlength, hempty⟩ :=
      hlog.ask_apply offset hsize w
    rw [readPages, Work.bind_apply_of_ok hask]
    split
    · rename_i hlast
      simp only [Bool.or_eq_true, List.isEmpty_iff, decide_eq_true_eq, Int.ofNat_lt] at hlast
      exact ⟨_, _, w₁, rfl, later, by simp [Event.isPage], by simp,
        .last_page hanswered hbegins hempty hlast⟩
    · rename_i hmore
      simp only [Bool.or_eq_true, List.isEmpty_iff, decide_eq_true_eq, Int.ofNat_lt, not_or,
        Nat.not_lt] at hmore
      obtain ⟨⟨hpage, hall⟩, hfull⟩ := hmore
      have hpos : 0 < page.length := List.length_pos_of_ne_nil hpage
      have hrest : page.length ≤ log.length - offset := by
        simpa using hbegins.length_le
      have hnext : offset + page.length ≤ log.length := by omega
      obtain ⟨older, events, w₂, hread, later', hisPage, hfew, hreading⟩ :=
        ih hnext (by omega) w₁
      rw [Int.natCast_add] at hread
      rw [Work.bind_apply_of_ok hread]
      -- the page was full, so it does not hold the event of the cursor
      have hunseen : newerThan last page = page ∧ ∀ event ∈ page, last ≠ some event.id := by
        rcases newerThan_cases last page with ⟨event, rest, hsplit, -⟩ | hunseen
        · have hcount := congrArg List.length hsplit
          rw [List.length_append, List.length_cons] at hcount
          omega
        · exact hunseen
      rw [hunseen.1]
      refine ⟨page ++ older, .eventsRead contract offset size (.ok page) :: events, w₂, rfl,
        later.trans later', List.forall_mem_cons.mpr ⟨rfl, hisPage⟩, ?_,
        hreading.next_page hbegins hunseen.2 _⟩
      rw [List.length_cons]
      omega

end

/-! ### What is returned -/

/-- What is owed for a log that does not change: these events, oldest first, with this record. -/
structure Collected (r : Relayer σ) (contract : String) (log : List ContractEvent)
    (last : Option String) (size : ℕ) (found : List ContractEvent) (pages : List Event) : Prop where
  /-- The log is read page by page, as often at most as it has events, and once more. -/
  record : (∀ e ∈ pages, e.isPage = true) ∧ pages.length ≤ log.length + 1
  /-- No event is returned twice. -/
  once : (found.map ContractEvent.id).Nodup
  /-- What is returned is complete, or it is what was read before a page that was not full. -/
  reading : Reading r contract log last size 0 found.reverse pages
  /-- From a source that fills its pages it is all that is newer than the cursor. -/
  complete : FillsPages r contract log → NewerPart last log found.reverse

namespace Relayer

variable {r : Relayer σ} {contract : String} {log : List ContractEvent} {size : ℕ}

/-- **What is returned for a log.** Reading comes to an end, and it stops at the cursor, at the end
of the log, or behind a page that is not full. -/
theorem newEvents_collects (hlog : PagedLog r contract log) (hsize : 0 < size)
    (hlimit : log.length < r.pageLimit) (last : Option String) (w : World σ τ) :
    ∃ found pages w', r.newEvents contract last size w = (.ok found, w') ∧ w.Later w' pages ∧
      Collected r contract log last size found pages := by
  obtain ⟨fresh, pages, w', hread, later, hisPage, hfew, hreading⟩ :=
    @readPages_reading σ τ r contract log last size 0 hlog hsize r.pageLimit (Nat.zero_le _)
      (by omega) w
  have hevents := r.newEvents_apply contract last size w
  rw [Int.natCast_zero] at hread
  rw [hread] at hevents
  refine ⟨fresh.reverse, pages, w', hevents, later, ⟨hisPage, hfew⟩, ?_, ?_, fun hfills => ?_⟩
  · rw [List.map_reverse, List.nodup_reverse]
    exact hlog.distinct.sublist (hreading.starts_log.sublist.map ContractEvent.id)
  · rw [List.reverse_reverse]
    exact hreading
  · rw [List.reverse_reverse]
    exact hreading.newerPart_of_fills hfills

/-- A relayer whose chain has two events and serves one at a time, however many are asked for. -/
def singlyServed : Relayer Simulation where
  collaborators := { Simulation.collaborators with
    chain := { Simulation.collaborators.chain with
      events := fun _ offset limit s =>
        (.ok (((growingLog true).drop offset.toNat).take (min limit.toNat 1)), s) } }
  settings := {}
  services := ⟨"hub-token-service", "token-service"⟩

theorem pagedLog_singlyServed : PagedLog singlyServed "gateway" (growingLog true) where
  serves s offset size hsize := by
    refine ⟨_, rfl, List.take_prefix _ _, ?_, fun hnil => ?_⟩
    · rw [List.length_take]
      exact Nat.le_trans (Nat.min_le_left _ _) (Nat.min_le_left _ _)
    · rw [List.take_eq_nil_iff, List.drop_eq_nil_iff] at hnil
      simp only [Int.toNat_natCast] at hnil
      omega
  distinct := by decide

/-- Asked for one event at a time it is read to the end. -/
theorem newEvents_collects_singly :
    PagedLog singlyServed "gateway" (growingLog true) ∧ 0 < 1 ∧
    (growingLog true).length < singlyServed.pageLimit ∧
    ∃ found pages w', singlyServed.newEvents "gateway" none (1 : ℕ)
        (World.initial {} () : World Simulation Unit) = (.ok found, w') ∧
      (World.initial {} ()).Later w' pages ∧
      Collected singlyServed "gateway" (growingLog true) none 1 found pages := by
  have hlimit : (growingLog true).length < singlyServed.pageLimit := by decide
  exact ⟨pagedLog_singlyServed, Nat.one_pos, hlimit,
    newEvents_collects pagedLog_singlyServed Nat.one_pos hlimit none _⟩

/-- **An event behind a page that is not full.** Asked for fifty events the chain serves the newest
one. That is all that is returned although there is another one; the cursor moves to the newest, and
from then on there is nothing new. -/
theorem newEvents_overlooks :
    let w : World Simulation Unit := World.initial {} ()
    let polled := (singlyServed.pollContract "gateway" "gateway" w).2
    PagedLog singlyServed "gateway" (growingLog true) ∧
    (singlyServed.newEvents "gateway" none 50 w).1 = .ok ((growingLog true).take 1) ∧
    ¬ NewerPart none (growingLog true) ((growingLog true).take 1).reverse ∧
    polled.eventCursor? "gateway" = some "0x02-0" ∧
    polled.store.keys = [(.crossChainTransaction, "0x02")] ∧
    (singlyServed.pollContract "gateway" "gateway" polled).1 = .ok 0 := by
  intro w polled
  refine ⟨pagedLog_singlyServed, rfl, fun hnewer => ?_, ?_, ?_, ?_⟩
  · have hall : NewerPart none (growingLog true) (growingLog true) := .all fun _ _ => nofun
    cases hnewer.unique pagedLog_singlyServed.distinct hall
  · decide +kernel
  · decide +kernel
  · rfl

end Relayer

end ChainRelay
