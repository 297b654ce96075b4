import ChainRelay.Proofs.Queue.Rows
import ChainRelay.World.Queue

/-!
# Operations on the queue

A call that works off a batch touches the queue twice: when it starts, it claims its batch, and when
its handler has ended, it commits and releases. Between the two anything may happen on the queue,
other calls included. A history of the queue is therefore a list of operations, each of them an
upsert, the start of a call or the end of one, in any order.

## The contract

A commit checks its results against the batch as it was claimed, and not against the rows as they
are now. That is sound because of what holds between operations: every item that a call holds is
still the item of its row, as far as its status and its retry count go, and the call is the only one
that holds it.

## Main definitions

* `Queue` — the store with the calls in progress
* `Operation`, `Queue.step`, `Queue.run` — histories
* `Queue.Sound` — what holds between operations

## Main results

* `Queue.step_sound`, `Queue.run_sound` — every history keeps it
-/

namespace ChainRelay

/-- A call in progress with the batch that it has claimed. -/
structure Call where
  family : Family
  claimed : List WorkItem

/-- The rows that a call holds. -/
def Call.keys (call : Call) : List RowKey := call.claimed.map WorkItem.rowKey

/-- How the handler of a call has ended: it has returned results, or there are none because it
failed or has reached the limit of its time. -/
inductive Ending where
  | returned (results : List WorkItem) (now : Instant)
  | raised

/-- An operation on the queue. Several items are written one after the other. -/
inductive Operation where
  | upsert (now : Instant) (item : WorkItem)
  | start (now : Instant) (order : Work.BatchOrder)
  /-- The handler of a call has ended. Calls are numbered in the order in which they started. -/
  | finish (call : Nat) (ending : Ending)

/-- The queue with the calls that were started on it. A call that has ended leaves its place
empty. -/
structure Queue where
  store : Store := {}
  calls : List (Option Call) := []

namespace Store

variable {s s' : Store}

/-- A row is still as an item says that was claimed from it. -/
def Matches (s : Store) (family : Family) (item : WorkItem) : Prop :=
  item.family = family ∧ item.status = .pending ∧
    ∃ r ∈ s.rows, r.item.rowKey = item.rowKey ∧ r.item.status = .pending ∧
      r.item.retry = item.retry

/-- Claimed items stay current while their rows keep status and retry count. -/
theorem Matches.of_map {s s' : Store} {family : Family} {item : WorkItem} {f : Row → Row}
    {added : List Row} (h : Matches s family item) (hrows : s'.rows = s.rows.map f ++ added)
    (hf : ∀ r ∈ s.rows, r.item.rowKey = item.rowKey → (f r).item.rowKey = r.item.rowKey ∧
      (f r).item.status = r.item.status ∧ (f r).item.retry = r.item.retry) :
    Matches s' family item := by
  obtain ⟨hfamily, hpending, r, hr, hkey, hstatus, hretry⟩ := h
  obtain ⟨hkey', hstatus', hretry'⟩ := hf r hr hkey
  refine ⟨hfamily, hpending, f r, ?_, hkey'.trans hkey, hstatus'.trans hstatus,
    hretry'.trans hretry⟩
  rw [hrows]
  exact List.mem_append_left _ (List.mem_map_of_mem hr)

/-- What the end of a call makes of the rows: they take over its results, if those are sound. -/
def settle (s : Store) (call : Call) : Ending → Store
  | .raised => s
  | .returned results now =>
    match s.commit call.family call.claimed results now with
    | .ok s' => s'
    | .error _ => s

/-- A call that ends changes only rows that it holds, and none of them for the worse. -/
theorem settle_rows {call : Call} (hkeys : (s.rows.map fun r => r.item.rowKey).Nodup)
    (hcurrent : ∀ item ∈ call.claimed, s.Matches call.family item) (ending : Ending) :
    ∃ f : Row → Row, (s.settle call ending).rows = s.rows.map f ∧
      (s.settle call ending).locked = s.locked ∧ (s.settle call ending).next = s.next ∧
      ∀ r ∈ s.rows, r.Becomes (f r) ∧ (r.item.rowKey ∉ call.keys → f r = r) := by
  have unchanged {s' : Store} (h : s' = s) : ∃ f : Row → Row, s'.rows = s.rows.map f ∧
      s'.locked = s.locked ∧ s'.next = s.next ∧
      ∀ r ∈ s.rows, r.Becomes (f r) ∧ (r.item.rowKey ∉ call.keys → f r = r) := by
    subst h
    exact ⟨id, by rw [List.map_id], rfl, rfl, fun r _ => ⟨Row.Becomes.refl r, fun _ => rfl⟩⟩
  cases ending with
  | raised => exact unchanged rfl
  | returned results now =>
    cases hcommit : s.commit call.family call.claimed results now with
    | error fault => exact unchanged (by rw [settle, hcommit])
    | ok s' =>
      obtain ⟨hcheck, hrows, hlocked, hnext⟩ := commit_eq_ok hcommit
      rw [settle, hcommit]
      refine ⟨_, hrows, hlocked, hnext, fun r hr => ?_⟩
      -- the batch that the results were checked against has the rows as they are
      have sound {item : WorkItem} (hitem : item ∈ results)
          (hkey : r.item.rowKey = (call.family, item.key)) :
          r.item.rowKey ∈ call.keys ∧ r.item.status = .pending ∧ r.item.retry ≤ item.retry := by
        obtain ⟨-, held, hheld, hheldkey, -, hretry⟩ := of_checkResults hcheck item hitem
        obtain ⟨hfamily, -, r', hr', hrow, hstatus, hcount⟩ := hcurrent held hheld
        have hsame : held.rowKey = r.item.rowKey := by
          rw [hkey, ← hheldkey, ← hfamily]
          rfl
        obtain rfl : r' = r := List.inj_on_of_nodup_map hkeys hr' hr (hrow.trans hsame)
        refine ⟨?_, hstatus, hcount ▸ hretry⟩
        rw [← hsame]
        exact List.mem_map_of_mem hheld
      by_cases hnamed : ∃ item ∈ results, r.item.rowKey = (call.family, item.key)
      · obtain ⟨item, hitem, hkey, -, hretry⟩ : ∃ item ∈ results,
            r.item.rowKey = (call.family, item.key) ∧
            (r.afterResults call.family now results).item.status = item.status ∧
            (r.afterResults call.family now results).item.retry = item.retry :=
          Row.exists_of_afterResults hnamed
        obtain ⟨hheld, hpending, hle⟩ := sound hitem hkey
        refine ⟨⟨Row.afterResults_number results r, Row.afterResults_rowKey results r,
          Row.afterResults_createdAt results r, hretry ▸ hle, fun hterminal => ?_⟩,
          fun hnot => absurd hheld hnot⟩
        rw [Status.isTerminal_iff] at hterminal
        exact absurd hpending hterminal
      · have hsame : r.afterResults call.family now results = r :=
          Row.afterResults_of_not_mem fun item hitem hkey => hnamed ⟨item, hitem, hkey⟩
        rw [hsame]
        exact ⟨Row.Becomes.refl r, fun _ => rfl⟩

end Store

namespace Queue

/-- The call in progress with a number. -/
def call? (q : Queue) (n : Nat) : Option Call := q.calls[n]?.join

/-- The rows that calls in progress hold, in the order of the calls. -/
def held (q : Queue) : List RowKey := (q.calls.filterMap id).flatMap Call.keys

/-- One operation. -/
def step (q : Queue) : Operation → Queue
  | .upsert now item => { q with store := (q.store.upsert now item).2 }
  | .start now order =>
    match q.store.checkRests order.family order.backoff now with
    | .error _ => { q with calls := q.calls ++ [none] }
    | .ok () =>
      let (claimed, store) := q.store.claim order.family order.size order.backoff now
      { store, calls := q.calls ++ [some ⟨order.family, claimed⟩] }
  | .finish n ending =>
    match q.call? n with
    | none => q
    | some call =>
      { store := (q.store.settle call ending).release call.claimed, calls := q.calls.set n none }

/-- A history. -/
def run (q : Queue) (ops : List Operation) : Queue := ops.foldl step q

theorem run_cons (q : Queue) (op : Operation) (ops : List Operation) :
    q.run (op :: ops) = (q.step op).run ops := rfl

theorem run_append (q : Queue) (ops ops' : List Operation) :
    q.run (ops ++ ops') = (q.run ops).run ops' := List.foldl_append

/-- A call that starts holds the rows that it has claimed. -/
theorem step_start {q : Queue} {now : Instant} {order : Work.BatchOrder} {claimed : List WorkItem}
    (hrests : q.store.checkRests order.family order.backoff now = .ok ())
    (hclaim : (q.store.claim order.family order.size order.backoff now).1 = claimed) :
    q.step (.start now order) =
      ⟨{ q.store with locked := q.store.locked ++ claimed.map WorkItem.rowKey },
        q.calls ++ [some ⟨order.family, claimed⟩]⟩ := by
  subst hclaim
  rw [step, hrests]
  rfl

/-! ### The calls in progress -/

variable {q : Queue} {n : Nat} {call : Call}

theorem call?_eq_some_iff : q.call? n = some call ↔ q.calls[n]? = some (some call) := by
  rw [call?, Option.join_eq_some_iff]

theorem mem_calls_of_call? (h : q.call? n = some call) : some call ∈ q.calls :=
  List.mem_of_getElem? (call?_eq_some_iff.mp h)

theorem keys_subset_held (h : some call ∈ q.calls) : call.keys ⊆ q.held := by
  intro key hkey
  exact List.mem_flatMap.mpr ⟨call, List.mem_filterMap.mpr ⟨_, h, rfl⟩, hkey⟩

theorem mem_held_iff {key : RowKey} :
    key ∈ q.held ↔ ∃ n call, q.call? n = some call ∧ key ∈ call.keys := by
  constructor
  · intro h
    obtain ⟨call, hcall, hkey⟩ := List.mem_flatMap.mp h
    obtain ⟨call', hmem, rfl⟩ := List.mem_filterMap.mp hcall
    obtain ⟨n, hn⟩ := List.mem_iff_getElem?.mp hmem
    exact ⟨n, call, call?_eq_some_iff.mpr hn, hkey⟩
  · rintro ⟨n, call, hcall, hkey⟩
    exact keys_subset_held (mem_calls_of_call? hcall) hkey

theorem held_append (s : Store) (calls calls' : List (Option Call)) :
    (Queue.mk s (calls ++ calls')).held =
      (Queue.mk s calls).held ++ (Queue.mk s calls').held := by
  simp [held]

/-- A call stands between those that started before it and those that started after it. -/
theorem calls_eq (h : q.call? n = some call) : ∃ before after,
    q.calls = before ++ some call :: after ∧ q.calls.set n none = before ++ none :: after ∧
      before.length = n := by
  obtain ⟨hn, hget⟩ := List.getElem?_eq_some_iff.mp (call?_eq_some_iff.mp h)
  refine ⟨q.calls.take n, q.calls.drop (n + 1), ?_, ?_, ?_⟩
  · rw [← hget, List.getElem_cons_drop, List.take_append_drop]
  · rw [List.set_eq_take_append_cons_drop, if_pos hn]
  · rw [List.length_take, Nat.min_eq_left (Nat.le_of_lt hn)]

/-- What a call holds stands between what the others hold. -/
theorem held_insert (s : Store) (before after : List (Option Call)) (call : Option Call) :
    (Queue.mk s (before ++ call :: after)).held =
      (Queue.mk s before).held ++
        ((call.map Call.keys).getD [] ++ (Queue.mk s after).held) := by
  cases call <;> simp [held]

/-! ### What holds between operations -/

/-- What holds between operations. -/
structure Sound (q : Queue) : Prop where
  /-- There is one row for a key. -/
  keys : (q.store.rows.map fun r => r.item.rowKey).Nodup
  /-- Rows are numbered in the order in which they were created. -/
  numbers : q.store.rows.map Row.number = List.range q.store.next
  /-- The locked rows are those that calls in progress hold. -/
  locked : q.store.locked = q.held
  /-- No row is held twice. -/
  exclusive : q.held.Nodup
  /-- What was claimed is still so. -/
  current : ∀ call, some call ∈ q.calls → ∀ item ∈ call.claimed,
    q.store.Matches call.family item

theorem sound_empty : Sound {} :=
  ⟨List.nodup_nil, rfl, rfl, List.nodup_nil, fun _ h => by cases h⟩

/-- An upsert changes no row that is held, as far as calls depend on it. -/
theorem Sound.upsert (h : q.Sound) (now : Instant) (item : WorkItem) :
    (q.step (.upsert now item)).Sound := by
  rcases q.store.upsert_cases now item with
    ⟨hnew, -, created, hcreated, hstore⟩ | ⟨r, -, -, -, hstore⟩ | ⟨r, -, -, -, hstore⟩
  · have hnot : item.rowKey ∉ q.store.rows.map fun r => r.item.rowKey := by
      intro hmem
      obtain ⟨r, hr, hkey⟩ := List.mem_map.mp hmem
      exact List.find?_eq_none.mp hnew r hr (by simpa using hkey)
    rw [step, hstore]
    refine ⟨?_, ?_, h.locked, h.exclusive, fun call hcall item' hitem' => ?_⟩
    · rw [List.map_append, List.map_singleton, hcreated]
      exact List.Nodup.append h.keys (List.nodup_singleton _) (by simpa using hnot)
    · rw [List.map_append, h.numbers, List.map_singleton, List.range_succ]
    · exact (h.current call hcall item' hitem').of_map (f := id) (by rw [List.map_id])
        fun r _ _ => ⟨rfl, rfl, rfl⟩
  · rw [step, hstore]
    exact ⟨h.keys, h.numbers, h.locked, h.exclusive, h.current⟩
  · have hrenew (r : Row) : (Store.renew item.rowKey item.payload now r).number = r.number ∧
        (Store.renew item.rowKey item.payload now r).item.rowKey = r.item.rowKey ∧
        (Store.renew item.rowKey item.payload now r).item.status = r.item.status ∧
        (Store.renew item.rowKey item.payload now r).item.retry = r.item.retry := by
      obtain ⟨payload, updatedAt, hrow⟩ := Store.renew_eq item.rowKey item.payload now r
      rw [hrow]
      exact ⟨rfl, rfl, rfl, rfl⟩
    rw [step, hstore]
    refine ⟨?_, ?_, h.locked, h.exclusive, fun call hcall item' hitem' => ?_⟩
    · rw [List.map_map]
      have hsame : (fun r : Row => r.item.rowKey) ∘ Store.renew item.rowKey item.payload now =
          fun r => r.item.rowKey := funext fun r => (hrenew r).2.1
      rw [hsame]
      exact h.keys
    · rw [List.map_map]
      have hsame : Row.number ∘ Store.renew item.rowKey item.payload now = Row.number :=
        funext fun r => (hrenew r).1
      rw [hsame]
      exact h.numbers
    · exact (h.current call hcall item' hitem').of_map (by rw [List.append_nil])
        fun r _ _ => (hrenew r).2

/-- A claim takes rows that nobody holds. -/
theorem Sound.start (h : q.Sound) (now : Instant) (order : Work.BatchOrder) :
    (q.step (.start now order)).Sound := by
  have hended : (Queue.mk q.store (q.calls ++ [none])).held = q.held := by
    rw [held_append]
    simp [held]
  rw [step]
  cases q.store.checkRests order.family order.backoff now with
  | error fault =>
    refine ⟨h.keys, h.numbers, h.locked.trans hended.symm, ?_, fun call hcall => ?_⟩
    · exact hended.symm ▸ h.exclusive
    · refine h.current call ?_
      simpa using hcall
  | ok _ =>
    obtain ⟨claimed, hclaimed⟩ : ∃ claimed,
        claimed = (q.store.claim order.family order.size order.backoff now).1 := ⟨_, rfl⟩
    have hclaim : q.store.claim order.family order.size order.backoff now =
        (claimed, { q.store with locked := q.store.locked ++ claimed.map WorkItem.rowKey }) := by
      rw [hclaimed]
      rfl
    have hmem : ∀ item ∈ claimed, item.family = order.family ∧ item.status = .pending ∧
        item.rowKey ∉ q.store.locked ∧ ∃ r ∈ q.store.rows, r.item = item := by
      intro item hitem
      rw [hclaimed] at hitem
      exact Store.of_mem_claim hitem
    have hbatch : Claimed claimed := by
      rw [hclaimed]
      exact Store.claimed_claim h.keys
    dsimp only
    rw [hclaim]
    have hheld : (Queue.mk { q.store with locked := q.store.locked ++ claimed.map WorkItem.rowKey }
        (q.calls ++ [some ⟨order.family, claimed⟩])).held =
          q.held ++ claimed.map WorkItem.rowKey := by
      rw [held_append]
      simp [held, Call.keys]
    refine ⟨h.keys, h.numbers, ?_, ?_, fun call hcall item hitem => ?_⟩
    · rw [hheld, ← h.locked]
    · rw [hheld]
      refine List.Nodup.append h.exclusive hbatch.distinct ?_
      intro key hkey hkey'
      obtain ⟨item, hitem, rfl⟩ := List.mem_map.mp hkey'
      rw [← h.locked] at hkey
      exact (hmem item hitem).2.2.1 hkey
    · rcases List.mem_append.mp hcall with hcall | hcall
      · exact h.current call hcall item hitem
      · cases List.mem_singleton.mp hcall
        obtain ⟨hfamily, hpending, -, r, hr, rfl⟩ := hmem item hitem
        exact ⟨hfamily, hpending, r, hr, rfl, hpending, rfl⟩

/-- Taking out of distinct keys those that stand in the middle leaves the others. -/
theorem filter_middle {before keys after : List RowKey} (h : (before ++ (keys ++ after)).Nodup) :
    (before ++ (keys ++ after)).filter (fun key => !keys.contains key) = before ++ after := by
  have hkept {others : List RowKey} (hdisjoint : List.Disjoint others keys) :
      others.filter (fun key => !keys.contains key) = others := by
    refine List.filter_eq_self.mpr fun key hkey => ?_
    simpa using hdisjoint hkey
  have hfreed : keys.filter (fun key => !keys.contains key) = [] := by
    refine List.filter_eq_nil_iff.mpr fun key hkey => ?_
    simpa using hkey
  have hbefore : List.Disjoint before keys := fun key hkey hkey' =>
    List.disjoint_of_nodup_append h hkey (List.mem_append_left _ hkey')
  have hafter : List.Disjoint after keys := fun key hkey hkey' =>
    List.disjoint_of_nodup_append h.of_append_right hkey' hkey
  rw [List.filter_append, List.filter_append, hkept hbefore, hfreed, hkept hafter, List.nil_append]

/-- Another call in progress holds other rows. -/
theorem Sound.not_mem_keys (h : q.Sound) (hcall : q.call? n = some call) {other : Call}
    (hother : some other ∈ q.calls.set n none) {key : RowKey} (hkey : key ∈ other.keys) :
    some other ∈ q.calls ∧ key ∉ call.keys := by
  obtain ⟨before, after, hcalls, hset, -⟩ := calls_eq hcall
  have hexclusive : (Queue.mk q.store (before ++ some call :: after)).held.Nodup := by
    rw [← hcalls]
    exact h.exclusive
  rw [held_insert] at hexclusive
  rw [hset] at hother
  rw [hcalls]
  rcases List.mem_append.mp hother with hmem | hmem
  · refine ⟨List.mem_append_left _ hmem, fun hkey' => ?_⟩
    exact List.disjoint_of_nodup_append hexclusive
      (keys_subset_held (q := ⟨q.store, before⟩) hmem hkey) (List.mem_append_left _ hkey')
  · have hmem : some other ∈ after := by simpa using hmem
    refine ⟨List.mem_append_right _ (List.mem_cons_of_mem _ hmem), fun hkey' => ?_⟩
    exact List.disjoint_of_nodup_append hexclusive.of_append_right hkey'
      (keys_subset_held (q := ⟨q.store, after⟩) hmem hkey)

/-- A call that ends changes and releases what it holds, and nothing else. -/
theorem Sound.finish (h : q.Sound) (n : Nat) (ending : Ending) :
    (q.step (.finish n ending)).Sound := by
  rw [step]
  cases hcall : q.call? n with
  | none => exact h
  | some call =>
    obtain ⟨f, hrows, hlocked, hnext, hf⟩ :=
      Store.settle_rows h.keys (h.current call (mem_calls_of_call? hcall)) ending
    obtain ⟨before, after, hcalls, hset, -⟩ := calls_eq hcall
    have hheld : q.held = (Queue.mk q.store before).held ++
        (call.keys ++ (Queue.mk q.store after).held) := by
      have hinsert := held_insert q.store before after (some call)
      rw [← hcalls] at hinsert
      exact hinsert
    have hheld' (s : Store) : (Queue.mk s (q.calls.set n none)).held =
        (Queue.mk q.store before).held ++ (Queue.mk q.store after).held := by
      rw [hset, held_insert]
      rfl
    have hexclusive := h.exclusive
    rw [hheld] at hexclusive
    dsimp only
    refine ⟨?_, ?_, ?_, ?_, fun other hother item hitem => ?_⟩
    · change ((q.store.settle call ending).rows.map fun r => r.item.rowKey).Nodup
      rw [hrows, List.map_map]
      have hsame : q.store.rows.map ((fun r : Row => r.item.rowKey) ∘ f) =
          q.store.rows.map fun r => r.item.rowKey :=
        List.map_congr_left fun r hr => (hf r hr).1.rowKey
      rw [hsame]
      exact h.keys
    · change (q.store.settle call ending).rows.map Row.number =
        List.range (q.store.settle call ending).next
      rw [hrows, hnext, List.map_map, ← h.numbers]
      exact List.map_congr_left fun r hr => (hf r hr).1.number
    · change (q.store.settle call ending).locked.filter (fun key => !call.keys.contains key) = _
      rw [hlocked, h.locked, hheld, hheld']
      exact filter_middle hexclusive
    · rw [hheld']
      exact hexclusive.sublist ((List.sublist_append_right _ _).append_left _)
    · obtain ⟨hprogress, hothers⟩ := h.not_mem_keys hcall hother (List.mem_map_of_mem hitem)
      have hreleased : ((q.store.settle call ending).release call.claimed).rows =
          q.store.rows.map f ++ [] := by
        rw [List.append_nil, ← hrows]
        rfl
      refine (h.current other hprogress item hitem).of_map hreleased fun r hr hkey => ?_
      rw [(hf r hr).2 (hkey ▸ hothers)]
      exact ⟨rfl, rfl, rfl⟩

/-- Every operation keeps it. -/
theorem step_sound (h : q.Sound) (op : Operation) : (q.step op).Sound := by
  cases op with
  | upsert now item => exact h.upsert now item
  | start now order => exact h.start now order
  | finish n ending => exact h.finish n ending

/-- **Every history keeps it.** -/
theorem run_sound (h : q.Sound) (ops : List Operation) : (q.run ops).Sound := by
  induction ops generalizing q with
  | nil => exact h
  | cons op rest ih => exact ih (step_sound h op)

end Queue

end ChainRelay
