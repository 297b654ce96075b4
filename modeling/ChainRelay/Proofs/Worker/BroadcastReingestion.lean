import ChainRelay.Proofs.Worker.BroadcastCourse
import ChainRelay.Worker.Tasks

/-!
# Ingesting a broadcast task again

A task that asks for a broadcast puts a fresh item on the queue, whatever is there for it already.
If it comes back while its item is still there, the retries that were paid and the name of the
broadcast in flight are lost: nobody asks for that broadcast any more, and the same request is
broadcast again, up to three times after each put.

## The contract

A task is processed any number of times, in any order with the calls that advance the queue. What
else happens leaves the entry of the key alone, and the hub is as for a single item.

## Main definitions

* `Relayer.broadcastOf` — what a task asks to be broadcast
* `Renewed` — what it means that such a task is processed

## Main results

* `Relayer.processTask_of_broadcast` — such a task is a put of a fresh item
* `Relayer.broadcastTask_renews` — the law for all tasks and all histories
* `Relayer.broadcastTask_repeats` — a request that is broadcast twice
-/

namespace ChainRelay

variable {σ τ : Type} [Seconds τ]

namespace Relayer

/-- The identifier and the item of what a task asks to be broadcast, for the four types of tasks
that do. -/
def broadcastOf (r : Relayer σ) (task : HubTask) :
    Option (Except Fault (String × PendingBroadcast)) :=
  match task.type with
  | "CONSTRUCT_PROOF" => some
      (messageBroadcast r.services.proofRequest "proof_" "CONSTRUCT_PROOF" task)
  | "VERIFY" => some (messageBroadcast r.services.verifyRequest "verify_" "VERIFY" task)
  | "REACT_TO_EXPIRED_SIGNING_SESSION" => some
      (contractBroadcast "sessionID" "retry_proof_" "CONSTRUCT_PROOF" task)
  | "REACT_TO_RETRIABLE_POLL" => some (contractBroadcast "pollID" "retry_verify_" "VERIFY" task)
  | _ => none

/-- The types of tasks that ask for a broadcast. -/
theorem broadcastOf_isSome (r : Relayer σ) (task : HubTask) : (r.broadcastOf task).isSome =
    ["CONSTRUCT_PROOF", "VERIFY", "REACT_TO_EXPIRED_SIGNING_SESSION",
      "REACT_TO_RETRIABLE_POLL"].contains task.type := by
  rw [broadcastOf]
  split <;> simp_all

theorem taskHandler_of_broadcastOf {r : Relayer σ} {task : HubTask}
    {found : Except Fault (String × PendingBroadcast)} (h : r.broadcastOf task = some found) :
    (r.taskHandler task : Option (Work σ τ Unit)) = some (r.enqueueBroadcast found) := by
  rw [broadcastOf] at h
  split at h <;> cases h <;> simp_all [taskHandler]

/-- The item of a task has paid nothing, and nothing is in flight for it. -/
theorem fresh_of_broadcastOf {r : Relayer σ} {task : HubTask} {id : String}
    {item : PendingBroadcast} (h : r.broadcastOf task = some (.ok (id, item))) :
    item.retry = 0 ∧ item.broadcastId = .null := by
  have hmessage {request : Json → Except Fault Fields} {space type : String}
      (hitem : messageBroadcast request space type task = .ok (id, item)) :
      item.retry = 0 ∧ item.broadcastId = .null := by
    rw [messageBroadcast] at hitem
    obtain ⟨request, -, hitem⟩ := exists_of_bind_eq_ok hitem
    obtain ⟨message, -, hitem⟩ := exists_of_bind_eq_ok hitem
    obtain ⟨chain, -, hitem⟩ := exists_of_bind_eq_ok hitem
    obtain ⟨messageId, -, hitem⟩ := exists_of_bind_eq_ok hitem
    cases hitem
    exact ⟨rfl, rfl⟩
  have hcontract {subject space type : String}
      (hitem : contractBroadcast subject space type task = .ok (id, item)) :
      item.retry = 0 ∧ item.broadcastId = .null := by
    rw [contractBroadcast] at hitem
    obtain ⟨contract, -, hitem⟩ := exists_of_bind_eq_ok hitem
    obtain ⟨subject, -, hitem⟩ := exists_of_bind_eq_ok hitem
    obtain ⟨request, -, hitem⟩ := exists_of_bind_eq_ok hitem
    cases hitem
    exact ⟨rfl, rfl⟩
  rw [broadcastOf] at h
  split at h
  · exact hmessage (Option.some.inj h)
  · exact hmessage (Option.some.inj h)
  · exact hcontract (Option.some.inj h)
  · exact hcontract (Option.some.inj h)
  · cases h

/-- A task that is refused changes nothing. -/
theorem processTask_refused {r : Relayer σ} {task : HubTask} {fault : Fault}
    (h : r.broadcastOf task = some (.error fault)) (w : World σ τ) :
    r.processTask task w = (.error (.fault fault), w) := by
  rw [processTask, taskHandler_of_broadcastOf h]
  rfl

/-- **A broadcast task is a put.** -/
theorem processTask_of_broadcast {r : Relayer σ} {task : HubTask} {id : String}
    {item : PendingBroadcast} (h : r.broadcastOf task = some (.ok (id, item))) (w : World σ τ) :
    r.processTask task w = (r.broadcasts.written, (r.broadcasts.put (r.broadcasts.keyOf id)
      { item with timestamp := w.wallNow.toMillis } w).2) := by
  have hfound : (Work.ofExcept (.ok (id, item)) : Work σ τ _) w = (.ok (id, item), w) := rfl
  have hput : r.enqueueBroadcast (.ok (id, item)) w = r.broadcasts.put (r.broadcasts.keyOf id)
      { item with timestamp := w.wallNow.toMillis } w := by
    rw [enqueueBroadcast, Work.bind_apply_of_ok hfound]
    dsimp only
    rw [Work.bind_apply_of_ok (Work.now_apply w)]
  rw [processTask, taskHandler_of_broadcastOf h]
  dsimp only
  rw [Work.bind_apply, hput, BroadcastQueue.put_apply, BroadcastQueue.written]
  cases r.broadcasts.ttl.check <;> rfl

/-- A turn that finds an item which has paid nothing asks for a broadcast. -/
theorem broadcasts_of_fresh {r : Relayer σ} {key : String} {w : World σ τ} {v : Visit σ τ}
    {item : PendingBroadcast} (h : v ∈ r.visitsOf key w)
    (found : v.before.pending? key = .ok (some item)) (unspent : item.retry = 0)
    (idle : item.broadcastId = .null) : v.broadcasts = 1 := by
  have hturn := (turn_of_mem_visitsOf h).2
  have hsame {other : PendingBroadcast} (hother : v.before.pending? key = .ok (some other)) :
      other = item := Option.some.inj (Except.ok.inj (hother.symm.trans found))
  have hflying {other : PendingBroadcast} (hother : v.before.pending? key = .ok (some other))
      (hid : other.broadcastId.truthy = true) : False := by
    rw [hsame hother, idle] at hid
    cases hid
  rw [Visit.broadcasts]
  generalize v.events = events at hturn
  generalize v.result = result at hturn
  cases hturn with
  | missing hother | unreadable hother =>
    rw [found] at hother
    cases hother
  | undated hother hid | settled hother hid | waiting hother hid | released hother hid =>
    exact (hflying hother hid).elim
  | dropped hother _ spent =>
    rw [hsame hother, unspent] at spent
    cases spent
  | accepted | refused | failed => rfl

end Relayer

/-! ### What becomes of the item -/

open BroadcastCourse in
/-- What it means that the task of an item is processed after a history of its key. -/
structure Renewed [Seconds τ] (r : Relayer σ) (key : String) (ms : List (Occasion σ τ))
    (task : HubTask) (w : World σ τ) (item : PendingBroadcast) : Prop where
  /-- The item of the task has paid nothing, and no broadcast is named. -/
  fresh : item.retry = 0 ∧ item.broadcastId = .null
  /-- It is put under the key, and nothing else is done. -/
  put : r.processTask task w = (r.broadcasts.written, { w with
    cache := w.cache.set w.monoNow key item.toJson (some r.broadcasts.ttl) })
  /-- That is one more occasion of the history. -/
  course : BroadcastCourse r key (ms ++ [.put w item]) (r.processTask task w).2
  /-- Of an item that was there the progress is kept if it had made none, and lost otherwise. -/
  progress : r.HubNames → ∀ old, w.pending? key = .ok (some old) →
    item.retry ≤ old.retry ∧
    (item.retry = old.retry ∧ item.broadcastId = old.broadcastId ↔
      old.retry = 0 ∧ old.broadcastId = .null)
  /-- The next turn asks for a broadcast, whatever is in flight. -/
  again : ∀ (later : World σ τ), ∀ v ∈ r.visitsOf key later,
    v.before.pending? key = .ok (some item) → v.broadcasts = 1
  /-- From one put to the next there are three broadcasts at most. -/
  budget : r.HubNames → ∀ since, since <:+: ms → puts since = 0 → broadcasts since ≤ 3
  /-- Between a broadcast that was accepted and the next one, an item was put, or the hub has said
  that the first one has failed or is pending for too long. -/
  forgotten : r.HubNames → Forgotten ms

namespace Relayer

variable {r : Relayer σ} {task : HubTask}

/-- **Processing a broadcast task**, for the first time or again, at any point of any history of its
key. -/
theorem broadcastTask_renews (htype : task.type ∈ ["CONSTRUCT_PROOF", "VERIFY",
      "REACT_TO_EXPIRED_SIGNING_SESSION", "REACT_TO_RETRIABLE_POLL"]) (w : World σ τ) :
    (∃ fault, r.broadcastOf task = some (.error fault) ∧
      r.processTask task w = (.error (.fault fault), w)) ∨
    ∃ id item, r.broadcastOf task = some (.ok (id, item)) ∧
      ∀ ms, BroadcastCourse r (r.broadcasts.keyOf id) ms w →
        Renewed r (r.broadcasts.keyOf id) ms task w
          { item with timestamp := w.wallNow.toMillis } := by
  have hsome : (r.broadcastOf task).isSome = true := by
    rw [broadcastOf_isSome]
    exact List.contains_iff_mem.mpr htype
  obtain ⟨found, hfound⟩ := Option.isSome_iff_exists.mp hsome
  cases found with
  | error fault => exact .inl ⟨fault, hfound, processTask_refused hfound w⟩
  | ok keyed =>
    obtain ⟨id, item⟩ := keyed
    obtain ⟨hunspent, hidle⟩ := fresh_of_broadcastOf hfound
    have hprocess := processTask_of_broadcast hfound w
    refine .inr ⟨id, item, hfound, fun ms history => ?_⟩
    have hput := history.put { item with timestamp := w.wallNow.toMillis } hunspent hidle
    refine ⟨⟨hunspent, hidle⟩, ?_, ?_, fun hub old hold => ?_,
      fun later v hv found => broadcasts_of_fresh hv found hunspent hidle,
      fun hub => (history.sound hub).spent, fun hub => (history.sound hub).forgotten⟩
    · rw [hprocess, BroadcastQueue.put_apply]
    · rw [hprocess]
      exact hput
    · have hstored := (history.sound hub).holds.of_found hold
      dsimp only
      rw [hunspent, hidle]
      exact ⟨hstored.nonneg, eq_comm.and eq_comm⟩

end Relayer

/-! ### A request that is broadcast twice -/

/-- The task to verify a message. -/
def verifyTask : HubTask := ⟨"task-1", "VERIFY", .obj [
  ("message", .obj [("sourceChain", .str "stacks"), ("messageID", .str "m-1")])]⟩

namespace World

/-- The task is processed. -/
def ingested (w : World Simulation Rat) : World Simulation Rat :=
  (Relayer.simulated.processTask verifyTask w).2

/-- Pending broadcasts are advanced. -/
def advanced (w : World Simulation Rat) : World Simulation Rat :=
  (Relayer.simulated.processBroadcasts w).2

/-- How far the item of the task is: its retries, and the name of the broadcast in flight. -/
def standing (w : World Simulation Rat) : Option (Int × Option String) :=
  match w.pending? "pendingBroadcast:verify_stacks_m-1" with
  | .ok (some item) => some (item.retry, item.broadcastId.str?)
  | _ => none

end World

namespace Relayer

/-- **A request that is broadcast twice.** Its first broadcast is in flight when the task comes
back; then the name of it is gone, and the next call broadcasts the request again, without a
question about the first broadcast. Where the hub refuses, a retry that was counted is gone. -/
theorem broadcastTask_repeats :
    (let w : World Simulation Rat := (World.initial {} 0).ingested.advanced
    w.standing = some (0, some "broadcast-1") ∧
    w.ingested.standing = some (0, none) ∧
    w.ingested.advanced.standing = some (0, some "broadcast-2") ∧
    w.ingested.advanced.trace.length = 2 ∧
    w.ingested.advanced.trace.countP Event.isBroadcast = 2) ∧
    (let w : World Simulation Rat := (World.initial { broadcastsFail := true } 0).ingested.advanced
    w.standing = some (1, none) ∧ w.ingested.standing = some (0, none)) := by
  decide +kernel

/-- The law when the task comes back while its broadcast is in flight. -/
theorem broadcastTask_renews_flying :
    let w : World Simulation Rat := (World.initial {} 0).ingested.advanced
    verifyTask.type ∈ ["CONSTRUCT_PROOF", "VERIFY", "REACT_TO_EXPIRED_SIGNING_SESSION",
      "REACT_TO_RETRIABLE_POLL"] ∧
    simulated.HubNames ∧ w.standing = some (0, some "broadcast-1") ∧
    ∃ id item ms, simulated.broadcastOf verifyTask = some (.ok (id, item)) ∧
      BroadcastCourse simulated (simulated.broadcasts.keyOf id) ms w ∧
      Renewed simulated (simulated.broadcasts.keyOf id) ms verifyTask w
        { item with timestamp := w.wallNow.toMillis } := by
  have htype : verifyTask.type ∈ ["CONSTRUCT_PROOF", "VERIFY", "REACT_TO_EXPIRED_SIGNING_SESSION",
      "REACT_TO_RETRIABLE_POLL"] := by decide
  have hstanding : (World.initial {} 0).ingested.advanced.standing =
      some (0, some "broadcast-1") := by
    decide +kernel
  have hasks : (simulated.broadcastOf verifyTask).map (fun found => found.isOk) = some true := by
    decide +kernel
  have hrenews (w : World Simulation Rat) : ∃ id item,
      simulated.broadcastOf verifyTask = some (.ok (id, item)) ∧
      ∀ ms, BroadcastCourse simulated (simulated.broadcasts.keyOf id) ms w →
        Renewed simulated (simulated.broadcasts.keyOf id) ms verifyTask w
          { item with timestamp := w.wallNow.toMillis } := by
    rcases broadcastTask_renews (r := simulated) htype w with ⟨fault, hrefused, -⟩ | hrenewed
    · rw [hrefused] at hasks
      cases hasks
    · exact hrenewed
  obtain ⟨id, item, hfound, hfirst⟩ := hrenews (World.initial {} 0)
  have hstart : BroadcastCourse simulated (simulated.broadcasts.keyOf id) []
      (World.initial {} 0 : World Simulation Rat) := .start List.nodup_nil rfl
  have hcourse := (hfirst [] hstart).course.call
  obtain ⟨id', item', hfound', hsecond⟩ := hrenews (World.initial {} 0).ingested.advanced
  cases hfound.symm.trans hfound'
  exact ⟨htype, hubNames_simulated, hstanding, id, item, _, hfound, hcourse, hsecond _ hcourse⟩

end Relayer

end ChainRelay
