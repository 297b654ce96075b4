import ChainRelay.Database.Queue
import ChainRelay.Proofs.Database.Contents
import ChainRelay.Proofs.Queue.Operations
import ChainRelay.Proofs.World.Course

/-!
# Commits in a database

The durable queue can be kept in memory or in a database. Both check the result of a batch against
the items as they were claimed. The store in memory then writes all of it. The database writes it
row by row, and looks at each row once more: an update that finds its row finished changes nothing,
and the whole batch is rolled back.

## The database contract

What a database does is taken from its documentation. A transaction sees its own writes; a claim
changes no columns; an update changes the row of its key, and answers the key, exactly if that row
is pending at that moment; and what is rolled back is as it was when the transaction started.

## The commit contract

The two stores accept the same results and leave the same columns, unless an item of the result
comes after another one that has finished the same row. Then the store in memory accepts, and the
later item replaces what was finished; the database refuses.

## Main definitions

* `Database.Transactional` — what is relied on of a database
* `Database.Handled` — a batch whose handler has returned
* `Database.Agreement` — how the two stores end a batch
* `Database.Ledger` — a small database

## Main results

* `Database.batch_agreement` — every result of every batch
-/

namespace ChainRelay

variable {σ τ : Type}

/-! ### The store in memory -/

namespace Store

variable {s : Store} {family : Family} {claimed results : List WorkItem}

/-- Sound results are about rows that are there and pending. -/
theorem exists_row?_of_checkResults (hkeys : (s.rows.map fun r => r.item.rowKey).Nodup)
    (hmatches : ∀ item ∈ claimed, s.Matches family item)
    (hcheck : checkResults family claimed results = .ok ()) :
    ∀ item ∈ results, ∃ row, s.row? (family, item.key) = some row ∧
      row.item.status = .pending := by
  intro item hitem
  obtain ⟨-, held, hheld, hkey, -⟩ := of_checkResults hcheck item hitem
  obtain ⟨hfamily, -, row, hrow, hrowKey, hpending, -⟩ := hmatches held hheld
  refine ⟨row, ?_, hpending⟩
  have hfound := row?_of_mem hkeys hrow
  rw [hrowKey, WorkItem.rowKey, hfamily, hkey] at hfound
  exact hfound

/-- Sound results are accepted, and written one after the other. -/
theorem contents_commit (hkeys : (s.rows.map fun r => r.item.rowKey).Nodup)
    (hmatches : ∀ item ∈ claimed, s.Matches family item)
    (hcheck : checkResults family claimed results = .ok ()) (now : Instant) :
    ∃ s', s.commit family claimed results now = .ok s' ∧
      s'.contents = s.contents.putAll family results := by
  have hrows := exists_row?_of_checkResults hkeys hmatches hcheck
  rw [commit, hcheck]
  refine ⟨_, rfl, ?_⟩
  rw [← contents_writeResults fun item hitem => (hrows item hitem).imp fun _ => And.left]
  rfl

end Store

/-! ### The database -/

/-- A value that is taken is there, and nothing else happens. -/
theorem Work.of_ofExcept_apply {α : Type} {value : Except Fault α} {a : α} {w w' : World σ τ}
    (h : (Work.ofExcept value : Work σ τ α) w = (.ok a, w')) : value = .ok a ∧ w' = w := by
  cases value with
  | error fault => cases h
  | ok b =>
    cases h
    exact ⟨rfl, rfl⟩

namespace Database

/-- The statement that writes the columns of a row. -/
def updateOf (key : RowKey) (new : Columns) : Statement :=
  .query .value .updateProcessed [.str key.1.word, .str key.2, .str new.status.word,
    .int new.retry, Json.ofText? new.txHash, .str new.kind, new.payload]

/-- What is relied on of a database whose connection sees the contents `current` in each state, and
`saved` at the start of its transaction. -/
structure Transactional (c : Connection σ) (current saved : σ → Contents) : Prop where
  start : ∀ s, ∃ answer s', c .start s = (.ok answer, s') ∧ current s' = current s ∧
    saved s' = current s
  commit : ∀ s, ∃ answer s', c .commit s = (.ok answer, s') ∧ current s' = current s
  rollback : ∀ s, ∃ answer s', c .rollback s = (.ok answer, s') ∧ current s' = saved s
  /-- Rows that are claimed are locked, and no column of them is changed. -/
  claims : ∀ arguments s, current (c (.query .rows .claimPending arguments) s).2 = current s ∧
    saved (c (.query .rows .claimPending arguments) s).2 = saved s
  /-- An update that finds its row pending changes it and answers its key. -/
  updates : ∀ key new s, (current s).IsPending key →
    ∃ s', c (updateOf key new) s = (.ok (.str key.2), s') ∧
      current s' = (current s).put key new ∧ saved s' = saved s
  /-- An update that does not changes nothing. -/
  misses : ∀ key new s, ¬ (current s).IsPending key →
    ∃ s', c (updateOf key new) s = (.ok .null, s') ∧ current s' = current s ∧ saved s' = saved s

variable {c : Connection σ} {order : Work.BatchOrder}
  {handler : List WorkItem → InSession σ τ (List WorkItem)}

/-- The world with another state of the connection. -/
def connected (w : World (Session σ) τ) (state : σ) : World (Session σ) τ :=
  { w with env := { w.env with state } }

variable {w : World (Session σ) τ} {family : Family} {item : WorkItem} {results : List WorkItem}

theorem run_apply_of_ok {statement : Statement} {answer : Json} {s' : σ}
    (h : c statement w.env.state = (.ok answer, s')) :
    run c statement w = (.ok answer, connected w s') := by
  rw [run, h]
  rfl

/-- An item is written by one update, which must have found its row. -/
theorem writeResult_eq (c : Connection σ) (family : Family) (item : WorkItem) :
    (writeResult c family item : InSession σ τ Unit) = (do
      let updated ← run c (updateOf (family, item.key) item.columns)
      if updated.isNull then
        Work.fail (.invariant ("claimed row disappeared: " ++ item.key))) := rfl

theorem run_apply_eq_ok {statement : Statement} {answer : Json} {w' : World (Session σ) τ}
    (h : run c statement w = (.ok answer, w')) :
    w' = connected w (c statement w.env.state).2 := by
  rw [run] at h
  cases hanswer : c statement w.env.state with
  | mk given s' =>
    rw [hanswer] at h
    cases given with
    | ok value => exact (Prod.mk.inj h).2.symm
    | error fault => cases h

namespace Transactional

variable {current saved : σ → Contents} (hc : Transactional c current saved)

include hc

/-- An item is written to a row that is pending. -/
theorem writeResult_of_isPending
    (hpending : (current w.env.state).IsPending (family, item.key)) :
    ∃ s', writeResult c family item w = (.ok (), connected w s') ∧
      current s' = (current w.env.state).put (family, item.key) item.columns ∧
      saved s' = saved w.env.state := by
  obtain ⟨s', hanswer, hcurrent, hsaved⟩ := hc.updates (family, item.key) item.columns _ hpending
  refine ⟨s', ?_, hcurrent, hsaved⟩
  rw [writeResult_eq, Work.bind_apply_of_ok (run_apply_of_ok hanswer)]
  rfl

/-- A row that is not pending any more has disappeared. -/
theorem writeResult_of_not_isPending
    (hpending : ¬ (current w.env.state).IsPending (family, item.key)) :
    ∃ s', writeResult c family item w =
        (.error (.fault (.invariant ("claimed row disappeared: " ++ item.key))), connected w s') ∧
      saved s' = saved w.env.state := by
  obtain ⟨s', hanswer, -, hsaved⟩ := hc.misses (family, item.key) item.columns _ hpending
  refine ⟨s', ?_, hsaved⟩
  rw [writeResult_eq, Work.bind_apply_of_ok (run_apply_of_ok hanswer)]
  rfl

/-- Results that finish each row last are all written. -/
theorem forM_writeResult
    (hpending : ∀ item ∈ results, (current w.env.state).IsPending (family, item.key))
    (hlast : FinishesLast results) :
    ∃ s', results.forM (writeResult c family) w = (.ok (), connected w s') ∧
      current s' = (current w.env.state).putAll family results ∧
      saved s' = saved w.env.state := by
  induction results generalizing w with
  | nil => exact ⟨w.env.state, rfl, rfl, rfl⟩
  | cons item rest ih =>
    obtain ⟨hitem, hrest⟩ := List.pairwise_cons.mp hlast
    obtain ⟨s₁, hfirst, hcurrent, hsaved⟩ :=
      hc.writeResult_of_isPending (hpending item List.mem_cons_self)
    have hstill : ∀ later ∈ rest,
        (current (connected w s₁).env.state).IsPending (family, later.key) := by
      intro later hlater
      change (current s₁).IsPending _
      rw [Contents.IsPending, hcurrent]
      by_cases hkey : item.key = later.key
      · rw [← hkey, Contents.put_self]
        exact congrArg some (hitem later hlater hkey)
      · rw [Contents.put_of_ne fun heq => hkey (Prod.mk.inj heq).2.symm]
        exact hpending later (List.mem_cons_of_mem _ hlater)
    obtain ⟨s₂, hothers, hcurrent', hsaved'⟩ := ih hstill hrest
    refine ⟨s₂, ?_, ?_, hsaved'.trans hsaved⟩
    · exact (Work.bind_apply_of_ok hfirst).trans hothers
    · rw [hcurrent', Contents.putAll_cons, ← hcurrent]
      rfl

/-- The first item that comes too late ends the commit. -/
theorem forM_writeResult_of_late {front rest : List WorkItem} {item earlier : WorkItem}
    (hpending : ∀ item ∈ front, (current w.env.state).IsPending (family, item.key))
    (hlast : FinishesLast front) (hearlier : earlier ∈ front) (hkey : earlier.key = item.key)
    (hfinished : earlier.status ≠ .pending) :
    ∃ s', (front ++ item :: rest).forM (writeResult c family) w =
        (.error (.fault (.invariant ("claimed row disappeared: " ++ item.key))), connected w s') ∧
      saved s' = saved w.env.state := by
  obtain ⟨s₁, hfront, hcurrent, hsaved⟩ := hc.forM_writeResult hpending hlast
  have hover : ¬ (current (connected w s₁).env.state).IsPending (family, item.key) := by
    change ¬ (current s₁).IsPending _
    rw [Contents.IsPending, hcurrent, ← hkey, hlast.putAll_eq hearlier hfinished]
    exact fun h => hfinished (Option.some.inj h)
  obtain ⟨s₂, hitem, hsaved'⟩ := hc.writeResult_of_not_isPending hover
  refine ⟨s₂, ?_, hsaved'.trans hsaved⟩
  have happend : (front ++ item :: rest).forM (writeResult c family : WorkItem → InSession σ τ _) =
      (do front.forM (writeResult c family); (item :: rest).forM (writeResult c family)) :=
    List.forM_append
  rw [happend, Work.bind_apply_of_ok hfront]
  exact Work.bind_apply_of_error hitem

end Transactional

/-- A batch whose handler has returned `results` for the items `held`: the transaction was started
in `w`, the batch was claimed in `w₁`, and the handler worked from `w₂` to `w₃` and left the session
alone. -/
structure Handled (c : Connection σ) (order : Work.BatchOrder)
    (handler : List WorkItem → InSession σ τ (List WorkItem)) (held results : List WorkItem)
    (w w₁ w₂ w₃ : World (Session σ) τ) : Prop where
  started : ∃ answer, run c .start w = (.ok answer, w₁)
  claimed : claim c order w₁ = (.ok held, w₂)
  handled : handler held w₂ = (.ok results, w₃)
  aside : w₃.env = w₂.env

/-- How the store in memory and the database end a batch whose rows are those of `s`: the database
with `outcome`, and `contents` in its rows. -/
structure Agreement (s : Store) (family : Family) (claimed results : List WorkItem)
    (outcome : Except Halt (List WorkItem)) (contents : Contents) : Prop where
  /-- What one of them refuses as unsound the other one refuses for the same reason, and both leave
  all rows alone. -/
  refused : ∀ fault, Store.checkResults family claimed results = .error fault →
    (∃ message, fault = .invariant message) ∧
    (∀ now, s.commit family claimed results now = .error fault) ∧
    outcome = .error (.fault fault) ∧ contents = s.contents
  /-- Sound results that finish each row last are accepted by both and leave the same columns. -/
  accepted : Store.checkResults family claimed results = .ok () → FinishesLast results →
    outcome = .ok results ∧
    ∀ now, ∃ s', s.commit family claimed results now = .ok s' ∧ contents = s'.contents
  /-- Other sound results are accepted in memory only. -/
  apart : Store.checkResults family claimed results = .ok () → ¬ FinishesLast results →
    (∀ now, ∃ s', s.commit family claimed results now = .ok s' ∧
      s'.contents = s.contents.putAll family results) ∧
    contents = s.contents ∧
    ∃ front item rest, results = front ++ item :: rest ∧ FinishesLast front ∧
      (∃ earlier ∈ front, earlier.key = item.key ∧ earlier.status ≠ .pending) ∧
      outcome = .error (.fault (.invariant ("claimed row disappeared: " ++ item.key)))

/-- Sound results are written row by row. -/
theorem commitResults_of_checkResults {held : List WorkItem}
    (h : Store.checkResults family held results = .ok ()) :
    (commitResults c family held results : InSession σ τ Unit) =
      results.forM (writeResult c family) := by
  rw [commitResults, h]
  rfl

section

variable {current saved : σ → Contents} {held : List WorkItem} {w₁ w₂ w₃ : World (Session σ) τ}

/-- A claim changes no columns. -/
theorem Transactional.claim_state (hc : Transactional c current saved)
    (h : claim c order w₁ = (.ok held, w₂)) :
    current w₂.env.state = current w₁.env.state ∧ saved w₂.env.state = saved w₁.env.state := by
  rw [claim] at h
  obtain ⟨first, w, hfirst, hafter⟩ := Work.bind_apply_eq_ok h
  obtain ⟨between, w', hbetween, hquery⟩ := Work.bind_apply_eq_ok hafter
  obtain ⟨rows, w'', hrows, hitems⟩ := Work.bind_apply_eq_ok hquery
  rw [(Work.of_ofExcept_apply hitems).2, run_apply_eq_ok hrows, (Work.of_ofExcept_apply hbetween).2,
    (Work.of_ofExcept_apply hfirst).2]
  exact hc.claims _ _

/-- What a transaction comes to whose work has come to an end. -/
theorem Transactional.transaction_apply_of_ok {α : Type} (hc : Transactional c current saved)
    {work : InSession σ τ α} {a : α} (hstart : ∃ answer, run c .start w = (.ok answer, w₁))
    (hwork : work w₁ = (.ok a, w₂)) :
    (transaction c work w).1 = .ok a ∧
      current (transaction c work w).2.env.state = current w₂.env.state := by
  obtain ⟨answer, hstart⟩ := hstart
  obtain ⟨answer', s', hcommit, hcurrent⟩ := hc.commit w₂.env.state
  have hend : transaction c work w = (.ok a, connected w₂ s') := by
    rw [transaction, Work.bind_apply_of_ok hstart, hwork]
    dsimp only
    rw [Work.bind_apply_of_ok (run_apply_of_ok hcommit)]
    rfl
  rw [hend]
  exact ⟨rfl, hcurrent⟩

/-- Work that ends early is rolled back. -/
theorem Transactional.transaction_apply_of_error {α : Type} (hc : Transactional c current saved)
    {work : InSession σ τ α} {halt : Halt} (hstart : ∃ answer, run c .start w = (.ok answer, w₁))
    (hwork : work w₁ = (.error halt, w₂)) :
    (transaction c work w).1 = .error halt ∧
      current (transaction c work w).2.env.state = saved w₂.env.state := by
  obtain ⟨answer, hstart⟩ := hstart
  obtain ⟨answer', s', hrollback, hcurrent⟩ := hc.rollback w₂.env.state
  have hend : transaction c work w = (.error halt, connected w₂ s') := by
    rw [transaction, Work.bind_apply_of_ok hstart, hwork]
    dsimp only
    rw [Work.bind_apply_of_ok (run_apply_of_ok hrollback)]
    rfl
  rw [hend]
  exact ⟨rfl, hcurrent⟩

/-- Before the commit of a batch its transaction sees the rows as they were when it started. -/
theorem Handled.state (h : Handled c order handler held results w w₁ w₂ w₃)
    (hc : Transactional c current saved) :
    current w₃.env.state = current w.env.state ∧ saved w₃.env.state = current w.env.state := by
  obtain ⟨answer, hstart⟩ := h.started
  obtain ⟨answer', s', hstart', hcurrent, hsaved⟩ := hc.start w.env.state
  obtain rfl : w₁ = connected w s' := by
    rw [run_apply_of_ok hstart'] at hstart
    exact (Prod.mk.inj hstart).2.symm
  obtain ⟨hclaim, hclaim'⟩ := hc.claim_state h.claimed
  rw [h.aside, hclaim, hclaim']
  exact ⟨hcurrent, hsaved⟩

/-- What a batch comes to is what its commit comes to. -/
theorem Handled.batch_of_ok (h : Handled c order handler held results w w₁ w₂ w₃)
    (hc : Transactional c current saved) {w₄ : World (Session σ) τ}
    (hcommit : commitResults c order.family held results w₃ = (.ok (), w₄)) :
    (batch c order handler w).1 = .ok results ∧
      current (batch c order handler w).2.env.state = current w₄.env.state := by
  refine hc.transaction_apply_of_ok h.started ?_
  rw [Work.bind_apply_of_ok h.claimed, Work.bind_apply_of_ok h.handled,
    Work.bind_apply_of_ok hcommit]
  rfl

theorem Handled.batch_of_error (h : Handled c order handler held results w w₁ w₂ w₃)
    (hc : Transactional c current saved) {halt : Halt} {w₄ : World (Session σ) τ}
    (hcommit : commitResults c order.family held results w₃ = (.error halt, w₄))
    (hsaved : saved w₄.env.state = saved w₃.env.state) :
    (batch c order handler w).1 = .error halt ∧
      current (batch c order handler w).2.env.state = current w.env.state := by
  rw [← (h.state hc).2, ← hsaved]
  refine hc.transaction_apply_of_error h.started ?_
  rw [Work.bind_apply_of_ok h.claimed, Work.bind_apply_of_ok h.handled,
    Work.bind_apply_of_error hcommit]

end

/-- **Two stores.** Whatever the rows are, whichever of them are claimed and whatever the handler
returns: the two stores end the batch alike, unless something comes after an item that finishes its
row. -/
theorem batch_agreement {current saved : σ → Contents} (hc : Transactional c current saved)
    {held : List WorkItem} {w₁ w₂ w₃ : World (Session σ) τ}
    (h : Handled c order handler held results w w₁ w₂ w₃) {s : Store}
    (hkeys : (s.rows.map fun r => r.item.rowKey).Nodup)
    (hmatches : ∀ item ∈ held, s.Matches order.family item)
    (hsame : current w.env.state = s.contents) :
    Agreement s order.family held results (batch c order handler w).1
      (current (batch c order handler w).2.env.state) := by
  have hpending (hcheck : Store.checkResults order.family held results = .ok ()) :
      ∀ item ∈ results, (current w₃.env.state).IsPending (order.family, item.key) := by
    intro item hitem
    obtain ⟨row, hrow, hpending⟩ :=
      Store.exists_row?_of_checkResults hkeys hmatches hcheck item hitem
    rw [(h.state hc).1, hsame, Contents.IsPending, Store.contents, hrow]
    exact congrArg some hpending
  constructor
  · intro fault hcheck
    have hcommit : commitResults c order.family held results w₃ = (.error (.fault fault), w₃) := by
      rw [commitResults, hcheck]
      rfl
    obtain ⟨houtcome, hcontents⟩ := h.batch_of_error hc hcommit rfl
    refine ⟨Store.invariant_of_checkResults hcheck, fun now => ?_, houtcome,
      hcontents.trans hsame⟩
    rw [Store.commit, hcheck]
  · intro hcheck hlast
    obtain ⟨s', hwritten, hcurrent, -⟩ := hc.forM_writeResult (hpending hcheck) hlast
    rw [← commitResults_of_checkResults hcheck] at hwritten
    obtain ⟨houtcome, hcontents⟩ := h.batch_of_ok hc hwritten
    refine ⟨houtcome, fun now => ?_⟩
    obtain ⟨s'', hstore, hcolumns⟩ := Store.contents_commit hkeys hmatches hcheck now
    refine ⟨s'', hstore, ?_⟩
    rw [hcontents, hcolumns, ← hsame, ← (h.state hc).1]
    exact hcurrent
  · intro hcheck hlate
    obtain ⟨front, item, rest, rfl, hfront, earlier, hearlier, hkey, hfinished⟩ :=
      FinishesLast.exists_of_not hlate
    obtain ⟨s', hwritten, hsaved⟩ := hc.forM_writeResult_of_late
      (fun item hitem => hpending hcheck item (List.mem_append_left _ hitem)) hfront hearlier hkey
      hfinished
    rw [← commitResults_of_checkResults hcheck] at hwritten
    obtain ⟨houtcome, hcontents⟩ := h.batch_of_error hc hwritten hsaved
    exact ⟨Store.contents_commit hkeys hmatches hcheck, hcontents.trans hsame, front, item, rest,
      rfl, hfront, ⟨earlier, hearlier, hkey, hfinished⟩, houtcome⟩

/-! ### A small database -/

/-- A database of a few rows that were all written long ago, with a copy of them for a rollback. -/
structure Ledger where
  rows : List (RowKey × Columns)
  saved : List (RowKey × Columns) := []

namespace Ledger

/-- Rows by their keys. -/
def contents (rows : List (RowKey × Columns)) : Contents := fun key => rows.lookup key

/-- A row as it comes from a claim. -/
def rowOf (row : RowKey × Columns) : Json := .obj [
  ("family", .str row.1.1.word), ("natural_key", .str row.1.2),
  ("status", .str row.2.status.word), ("retry", .int row.2.retry),
  ("payload_kind", .str row.2.kind), ("payload", row.2.payload),
  ("tx_hash", Json.ofText? row.2.txHash), ("created_at", .int 0), ("updated_at", .int 0)]

/-- Rows with one of them written. -/
def write (rows : List (RowKey × Columns)) (key : RowKey) (new : Columns) :
    List (RowKey × Columns) :=
  rows.map fun row => if row.1 = key then (row.1, new) else row

/-- An update that looks at the row first. -/
def update (key : RowKey) (new : Columns) : Answers Ledger Json := fun l =>
  if (contents l.rows).IsPending key then
    (.ok (.str key.2), { l with rows := write l.rows key new })
  else (.ok .null, l)

/-- A claim of pending rows. -/
def pick : List Json → Answers Ledger Json
  | [.str family, _, _, .int limit] => fun l =>
    let pending := l.rows.filter fun row =>
      row.1.1.word == family && decide (row.2.status = .pending)
    (.ok (.arr ((Store.firstOf limit pending).map rowOf)), l)
  | _ => fun l => (.ok (.arr []), l)

/-- How statements are carried out. -/
def connection : Connection Ledger
  | .start => fun l => (.ok .null, { l with saved := l.rows })
  | .rollback => fun l => (.ok .null, { l with rows := l.saved })
  | .query .rows .claimPending arguments => pick arguments
  | .query .value .updateProcessed
      [.str family, .str key, .str status, .int retry, txHash, .str kind, payload] =>
    match Family.ofWord? family, Status.ofWord? status with
    | some family, some status => update (family, key) ⟨status, retry, txHash.str?, kind, payload⟩
    | _, _ => fun l => (.error (.badValue "unknown word"), l)
  | _ => fun l => (.ok .null, l)

theorem lookup_write (rows : List (RowKey × Columns)) (key other : RowKey) (new : Columns) :
    (write rows key new).lookup other =
      if other = key then (rows.lookup other).map fun _ => new else rows.lookup other := by
  induction rows with
  | nil => rw [write, List.map_nil, List.lookup_nil, Option.map_none, ite_self]
  | cons row rest ih =>
    have hhead : write (row :: rest) key new =
        (row.1, if row.1 = key then new else row.2) :: write rest key new := by
      rw [write, List.map_cons]
      split <;> rfl
    rw [hhead, List.lookup_cons, List.lookup_cons, ih]
    cases hplace : other == row.1 with
    | true =>
      rw [eq_of_beq hplace]
      change some (if row.1 = key then new else row.2) =
        if row.1 = key then some new else some row.2
      split <;> rfl
    | false => rfl

/-- An update that finds its row pending writes its columns. -/
theorem contents_write {rows : List (RowKey × Columns)} {key : RowKey}
    (h : (contents rows).IsPending key) (new : Columns) :
    contents (write rows key new) = (contents rows).put key new := by
  obtain ⟨old, hold, -⟩ := Option.map_eq_some_iff.mp h
  funext other
  rw [contents, lookup_write]
  by_cases hother : other = key
  · rw [if_pos hother, hother, Contents.put_self]
    change (contents rows key).map _ = _
    rw [hold, Option.map_some]
  · rw [if_neg hother, Contents.put_of_ne hother]
    rfl

theorem connection_updateOf (key : RowKey) (new : Columns) :
    connection (updateOf key new) = update key new := by
  obtain ⟨status, retry, txHash, kind, payload⟩ := new
  cases txHash <;> simp [updateOf, connection, Json.ofText?, Json.str?]

theorem pick_snd (arguments : List Json) (l : Ledger) : (pick arguments l).2 = l := by
  unfold pick
  split <;> rfl

/-- It does what is relied on. -/
theorem transactional :
    Transactional connection (fun l => contents l.rows) (fun l => contents l.saved) where
  start l := ⟨_, _, rfl, rfl, rfl⟩
  commit l := ⟨_, _, rfl, rfl⟩
  rollback l := ⟨_, _, rfl, rfl⟩
  claims arguments l := by
    change contents (pick arguments l).2.rows = _ ∧ contents (pick arguments l).2.saved = _
    rw [pick_snd]
    exact ⟨rfl, rfl⟩
  updates key new l h := by
    rw [connection_updateOf, update, if_pos h]
    exact ⟨_, rfl, contents_write h new, rfl⟩
  misses key new l h := by
    rw [connection_updateOf, update, if_neg h]
    exact ⟨_, rfl, rfl, rfl⟩

end Ledger

/-! ### A row that is finished twice -/

/-- A transaction of the chain whose events are relayed. -/
def oneTransaction : WorkItem where
  family := .crossChainTransaction
  key := "0x00"
  payload := .crossChain "0x00"
  createdAt := some 0
  updatedAt := some 0

/-- The store that holds it. -/
def oneRow : Store where
  rows := [⟨oneTransaction, 0⟩]
  next := 1

/-- A session of the database that holds it. -/
def oneSession : World (Session Ledger) Unit :=
  World.initial ⟨true, { rows := [(oneTransaction.rowKey, oneTransaction.columns)] }⟩ ()

/-- How it is worked off. -/
def relayOrder : Work.BatchOrder := ⟨.crossChainTransaction, 10, 60, {}⟩

/-- The session in a transaction. -/
def startedSession : World (Session Ledger) Unit :=
  connected oneSession { oneSession.env.state with saved := oneSession.env.state.rows }

/-- The row is claimed as it was stored. -/
theorem claim_startedSession :
    claim Ledger.connection relayOrder startedSession = (.ok [oneTransaction], startedSession) := by
  have hdouble : double 0 = .ok (.float (0 : Quantity).toFloat) := by
    rw [double, Quantity.check_eq_ok (by decide +kernel)]
    rfl
  have hfirst : double relayOrder.backoff.first = .ok (.float (0 : Quantity).toFloat) := hdouble
  have hbetween : double relayOrder.backoff.between = .ok (.float (0 : Quantity).toFloat) := hdouble
  rw [claim, hfirst, hbetween]
  rfl

/-- A handler that returns its items once for each of some statuses. -/
def returning (statuses : List Status) (items : List WorkItem) :
    InSession Ledger Unit (List WorkItem) :=
  pure (items.flatMap fun item => statuses.map fun status => { item with status })

theorem handled_returning (statuses : List Status) :
    Handled Ledger.connection relayOrder (returning statuses) [oneTransaction]
      (statuses.map fun status => { oneTransaction with status }) oneSession startedSession
      startedSession startedSession where
  started := ⟨.null, rfl⟩
  claimed := claim_startedSession
  handled := by
    rw [returning, List.flatMap_singleton]
    rfl
  aside := rfl

/-- Both stores hold the same row. -/
theorem contents_oneSession :
    Ledger.contents oneSession.env.state.rows = oneRow.contents := by
  funext key
  by_cases hkey : key = oneTransaction.rowKey
  · rw [hkey]
    rfl
  · have hmiss : (key == oneTransaction.rowKey) = false := beq_eq_false_iff_ne.mpr hkey
    have hmiss' : (oneTransaction.rowKey == key) = false := beq_eq_false_iff_ne.mpr (Ne.symm hkey)
    rw [Ledger.contents, Store.contents, Store.row?]
    change ([(oneTransaction.rowKey, oneTransaction.columns)].lookup key) =
      ([Row.mk oneTransaction 0].find? fun r => r.item.rowKey == key).map _
    rw [List.lookup_cons, hmiss, List.find?_cons_of_neg (by rw [hmiss']; exact Bool.false_ne_true)]
    rfl

/-- **A row that is finished twice.** The stores hold the same row, and the handler returns it as
succeeded and then as failed. In memory it has failed; in the database it is pending. -/
theorem commit_disagrees :
    Ledger.contents oneSession.env.state.rows = oneRow.contents ∧
    (∃ s', oneRow.commit .crossChainTransaction [oneTransaction]
        ([.success, .failed].map fun status => { oneTransaction with status }) 0 = .ok s' ∧
      (s'.contents oneTransaction.rowKey).map Columns.status = some .failed) ∧
    (batch Ledger.connection relayOrder (returning [.success, .failed]) oneSession).1 =
      .error (.fault (.invariant "claimed row disappeared: 0x00")) ∧
    (Ledger.contents (batch Ledger.connection relayOrder (returning [.success, .failed])
      oneSession).2.env.state.rows).IsPending oneTransaction.rowKey := by
  obtain ⟨houtcome, hcontents⟩ :=
    (handled_returning [.success, .failed]).batch_of_error Ledger.transactional rfl rfl
  refine ⟨contents_oneSession, ⟨_, rfl, rfl⟩, houtcome, ?_⟩
  rw [hcontents]
  rfl

/-- How the stores end the batch of this row when it is written twice and finished last. -/
theorem batch_agreement_oneRow :
    Transactional Ledger.connection (fun l => Ledger.contents l.rows)
      (fun l => Ledger.contents l.saved) ∧
    Handled Ledger.connection relayOrder (returning [.pending, .success]) [oneTransaction]
      ([.pending, .success].map fun status => { oneTransaction with status }) oneSession
      startedSession startedSession startedSession ∧
    Agreement oneRow .crossChainTransaction [oneTransaction]
      ([.pending, .success].map fun status => { oneTransaction with status })
      (batch Ledger.connection relayOrder (returning [.pending, .success]) oneSession).1
      (Ledger.contents (batch Ledger.connection relayOrder (returning [.pending, .success])
        oneSession).2.env.state.rows) := by
  have hmatches : ∀ item ∈ [oneTransaction], oneRow.Matches .crossChainTransaction item := by
    intro item hitem
    rw [List.mem_singleton.mp hitem]
    exact ⟨rfl, rfl, _, List.mem_cons_self, rfl, rfl, rfl⟩
  exact ⟨Ledger.transactional, handled_returning _, batch_agreement Ledger.transactional
    (handled_returning _) (List.nodup_singleton _) hmatches contents_oneSession⟩

end Database

end ChainRelay
