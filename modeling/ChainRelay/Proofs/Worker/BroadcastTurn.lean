import ChainRelay.Proofs.Cache.Entries
import ChainRelay.Proofs.Worker.InFlight
import ChainRelay.Worker.Broadcasts

/-!
# One turn of a pending broadcast

Whenever pending broadcasts are advanced, the item of a key has one turn. By what is found under the
key and by one answer of the hub the turn has one of ten courses. Each of them says what is asked,
what becomes of the entry, and how the turn ends.

## Main definitions

* `World.pending?` — what is found under a key
* `StatusAnswer.Waits`, `StatusAnswer.Releases` — what the hub may say about a broadcast
* `BroadcastTurn` — the courses of a turn

## Main results

* `PendingBroadcast.ofJson_toJson` — what is stored is read back as it was
* `StatusAnswer.outcome_cases` — which answer settles, keeps and releases a broadcast
* `Relayer.advanceBroadcast_turn` — every turn has one of these courses
-/

namespace ChainRelay

variable {σ τ : Type}

/-! ### What is found under a key -/

/-- What is stored is read back as it was. -/
theorem PendingBroadcast.ofJson_toJson (b : PendingBroadcast) : ofJson b.toJson = .ok b := by
  have hrequest : ((Json.obj b.request).orElse (.obj [])).toFields = .ok b.request := by
    rw [Json.orElse]
    cases hfields : b.request <;> rfl
  have hcount (n : Int) : ((Json.int n).orElse (.int 0)).toInt = .ok n := by
    rw [Json.orElse]
    by_cases hn : n = 0
    · rw [hn]
      rfl
    · rw [if_pos (by simpa [Json.truthy] using hn)]
      rfl
  change (do
    let request ← ((Json.obj b.request).orElse (.obj [])).toFields
    let retry ← ((Json.int b.retry).orElse (.int 0)).toInt
    let timestamp ← ((Json.int b.timestamp).orElse (.int 0)).toInt
    .ok { request, type := b.type, retry, broadcastId := b.broadcastId, timestamp } :
      Except Fault PendingBroadcast) = _
  rw [hrequest, hcount, hcount]
  rfl

namespace World

variable [Seconds τ]

/-- The pending broadcast that is found under a key, if there is one. -/
def pending? (w : World σ τ) (key : String) : Except Fault (Option PendingBroadcast) :=
  match (w.cache.live? w.monoNow key).map CacheEntry.value with
  | none | some .null => .ok none
  | some value => (PendingBroadcast.ofJson value).map some

theorem pending?_of_none {w : World σ τ} {key : String} (h : w.cache.entry? key = none) :
    w.pending? key = .ok none := by
  rw [pending?, Cache.live?, h]
  rfl

/-- What is found of an item that was stored. -/
theorem pending?_of_item {w : World σ τ} {key : String} {item : PendingBroadcast}
    {expiry : Option τ} (h : w.cache.entry? key = some ⟨item.toJson, expiry⟩) :
    w.pending? key =
      .ok (if Cache.expired w.monoNow ⟨item.toJson, expiry⟩ then none else some item) := by
  rw [pending?, Cache.live?, h, Option.filter]
  cases Cache.expired w.monoNow ⟨item.toJson, expiry⟩ with
  | true => rfl
  | false =>
    change (PendingBroadcast.ofJson item.toJson).map some = _
    rw [PendingBroadcast.ofJson_toJson]
    rfl

/-- What is found has not expired. -/
theorem live?_of_found {w : World σ τ} {key : String} {item : PendingBroadcast}
    (found : w.pending? key = .ok (some item)) : w.cache.live? w.monoNow key ≠ none := by
  intro hnone
  rw [pending?, hnone] at found
  cases found

/-- The world after a look at a key. -/
def looked (w : World σ τ) (key : String) : World σ τ :=
  { w with cache := (w.cache.get w.monoNow key).2 }

omit [Seconds τ] in
/-- A world in which only the cache, the record and the lines that were written have changed since
`w`, and the state of the collaborators. -/
def Turned (w w' : World σ τ) (events : List Event) : Prop :=
  ∃ env journal cache, w' = { w with env, trace := w.trace ++ events, journal, cache }

end World

namespace BroadcastQueue

variable [Seconds τ]

theorem get?_apply (key : String) (w : World σ τ) :
    get? key w = ((w.pending? key).mapError Halt.fault, w.looked key) := by
  have hget : (Work.withCache fun c t => c.get t key) w =
      (.ok ((w.cache.live? w.monoNow key).map CacheEntry.value), w.looked key) := by
    rw [Work.withCache, ← Cache.get_fst]
    rfl
  rw [get?, Work.bind_apply_of_ok hget, World.pending?]
  cases (w.cache.live? w.monoNow key).map CacheEntry.value with
  | none => rfl
  | some value =>
    have hread : (do return some (← Work.ofExcept (PendingBroadcast.ofJson value)) :
        Work σ τ (Option PendingBroadcast)) (w.looked key) =
          (((PendingBroadcast.ofJson value).map some).mapError Halt.fault, w.looked key) := by
      cases PendingBroadcast.ofJson value <;> rfl
    cases value <;> first | rfl | exact hread

theorem put_apply (q : BroadcastQueue) (key : String) (item : PendingBroadcast) (w : World σ τ) :
    q.put key item w = (q.ttl.check.mapError Halt.fault, { w with
      cache := w.cache.set w.monoNow key item.toJson (some q.ttl) }) := by
  have hset : (Work.withCache fun c t => ((), c.set t key item.toJson (some q.ttl))) w =
      (.ok (), { w with cache := w.cache.set w.monoNow key item.toJson (some q.ttl) }) := rfl
  rw [put, Work.bind_apply_of_ok hset]
  cases q.ttl.check <;> rfl

/-- How a turn ends that has written an item. -/
def written (q : BroadcastQueue) : Except Halt Bool :=
  (q.ttl.check.mapError Halt.fault).map fun _ => true

end BroadcastQueue

/-! ### What the hub may answer -/

/-- What the hub answers when it is asked for a broadcast. -/
abbrev StatusAnswer := Except Fault BroadcastStatus

/-- The age beyond which a broadcast that is still pending is given up: 120 seconds. -/
def broadcastMicros : ℤ := 120 * 1000000

namespace StatusAnswer

/-- Asking failed, or the broadcast is pending and may still be. -/
def Waits (answer : StatusAnswer) (age : ℤ) : Prop :=
  (∃ fault, answer = .error fault) ∨ (answer = .ok .received ∧ age ≤ broadcastMicros)

/-- The broadcast has failed, or it has been pending for too long. -/
def Releases (answer : StatusAnswer) (age : ℤ) : Prop :=
  answer = .ok .error ∨ (answer = .ok .received ∧ broadcastMicros < age)

/-- What an answer means for a broadcast that was sent `age` microseconds ago. -/
def outcome (answer : StatusAnswer) (age : ℤ) : Confirmation :=
  Tracker.broadcasts.outcome (Tracker.broadcasts.endingOf answer) age

/-- **Every outcome has its cause.** Only a success confirms a broadcast. -/
theorem outcome_cases (answer : StatusAnswer) (age : ℤ) :
    (answer = .ok .success ∧ answer.outcome age = .confirmed) ∨
    (answer.Waits age ∧ (answer.outcome age = .errored ∨ answer.outcome age = .pending)) ∨
    (answer.Releases age ∧ (answer.outcome age = .failed ∨ answer.outcome age = .timedOut)) := by
  have hage : olderThan age 120 = decide (broadcastMicros < age) :=
    decide_eq_decide.mpr (Decimal.lt_nearest_seconds_iff (n := 120) (by norm_num) age)
  match answer with
  | .error fault => exact .inr (.inl ⟨.inl ⟨fault, rfl⟩, .inl rfl⟩)
  | .ok .success => exact .inl ⟨rfl, rfl⟩
  | .ok .error => exact .inr (.inr ⟨.inl rfl, .inl rfl⟩)
  | .ok .received =>
    have houtcome : outcome (.ok .received) age =
        if olderThan age 120 then .timedOut else .pending := rfl
    rcases le_or_gt age broadcastMicros with hle | hlt
    · refine .inr (.inl ⟨.inr ⟨rfl, hle⟩, .inr ?_⟩)
      rw [houtcome, hage, decide_eq_false (not_lt.mpr hle)]
      rfl
    · refine .inr (.inr ⟨.inr ⟨rfl, hlt⟩, .inr ?_⟩)
      rw [houtcome, hage, decide_eq_true hlt]
      rfl

end StatusAnswer

/-! ### The courses of a turn -/

namespace PendingBroadcast

/-- What is said of an item whose retries are used up. -/
def spentMessage (item : PendingBroadcast) : String :=
  "Max retries reached for " ++ item.type.shown ++ ": " ++ (Json.obj item.request).encode

end PendingBroadcast

namespace Relayer

/-- The hub was asked for the broadcast of an item. -/
def statusAsked (r : Relayer σ) (item : PendingBroadcast) (answer : StatusAnswer) : Event :=
  .statusRead item.broadcastId.shown (r.targetContract item) answer

/-- The hub was asked to broadcast an item. -/
def broadcastAsked (r : Relayer σ) (item : PendingBroadcast) (answer : Except Fault String) :
    Event :=
  .broadcast (r.targetContract item) item.request answer

/-- The operators were told that the retries of an item are used up. -/
def spentReported (item : PendingBroadcast) (answer : Except Fault Unit) : Event :=
  .notified .error "Hub broadcast error" item.spentMessage answer

/-- The operators were told that the hub has refused an item. -/
def refusedReported (item : PendingBroadcast) (answer : Except Fault Unit) : Event :=
  .notified .warn "Hub broadcast error"
    ("Error broadcasting " ++ item.type.shown ++ ". Will be retried") answer

variable [Seconds τ]

/-- The cache of `w'` is that of `w` after a look at the key and the writing of an item with the
time of `w'`. -/
def Writes (r : Relayer σ) (key : String) (w w' : World σ τ) (item : PendingBroadcast) : Prop :=
  w'.cache = (w.looked key).cache.set w'.monoNow key
    { item with timestamp := w'.wallNow.toMillis }.toJson (some r.broadcasts.ttl)

end Relayer

/-- How the turn of a key goes that leads from `w` to `w'`: what is found, asked and answered, what
becomes of the cache, and how the turn ends. -/
inductive BroadcastTurn [Seconds τ] (r : Relayer σ) (key : String) (w w' : World σ τ) :
    List Event → Except Halt Bool → Prop
  /-- There is nothing under the key. -/
  | missing (found : w.pending? key = .ok none) (cache : w'.cache = (w.looked key).cache) :
      BroadcastTurn r key w w' [] (.ok false)
  /-- What is under the key denotes no item. -/
  | unreadable {fault : Fault} (found : w.pending? key = .error fault)
      (cache : w'.cache = (w.looked key).cache) :
      BroadcastTurn r key w w' [] (.error (.fault fault))
  /-- The time of the broadcast in flight denotes no instant. -/
  | undated {item : PendingBroadcast} {fault : Fault} (found : w.pending? key = .ok (some item))
      (flying : item.broadcastId.truthy = true) (dated : Instant.ofStored item.timestamp =
        .error fault) (cache : w'.cache = (w.looked key).cache) :
      BroadcastTurn r key w w' [] (.error (.fault fault))
  /-- The broadcast has succeeded, and the key is removed. -/
  | settled {item : PendingBroadcast} (found : w.pending? key = .ok (some item))
      (flying : item.broadcastId.truthy = true)
      (cache : w'.cache = (w.looked key).cache.erase key) :
      BroadcastTurn r key w w' [r.statusAsked item (.ok .success)] (.ok true)
  /-- Nothing is known of the broadcast, or it is still pending, and the entry stays as it is. -/
  | waiting {item : PendingBroadcast} {sentAt : Instant} {answer : StatusAnswer}
      (found : w.pending? key = .ok (some item)) (flying : item.broadcastId.truthy = true)
      (dated : Instant.ofStored item.timestamp = .ok sentAt)
      (waits : answer.Waits (w'.wallNow - sentAt)) (cache : w'.cache = (w.looked key).cache) :
      BroadcastTurn r key w w' [r.statusAsked item answer] (.ok true)
  /-- The broadcast has failed or was given up: its name is forgotten and a retry is counted. -/
  | released {item : PendingBroadcast} {sentAt : Instant} {answer : StatusAnswer}
      (found : w.pending? key = .ok (some item)) (flying : item.broadcastId.truthy = true)
      (dated : Instant.ofStored item.timestamp = .ok sentAt)
      (releases : answer.Releases (w'.wallNow - sentAt))
      (cache : r.Writes key w w' { item with broadcastId := .null, retry := item.retry + 1 }) :
      BroadcastTurn r key w w' [r.statusAsked item answer] r.broadcasts.written
  /-- The retries are used up: the operators are told, and the key is removed. -/
  | dropped {item : PendingBroadcast} {answer : Except Fault Unit}
      (found : w.pending? key = .ok (some item)) (idle : item.broadcastId.truthy = false)
      (spent : ceilingReached item.retry retryCeiling = true)
      (cache : w'.cache = (w.looked key).cache.erase key) :
      BroadcastTurn r key w w' [Relayer.spentReported item answer] (.ok true)
  /-- The item is broadcast, and the hub's name for the broadcast is kept. -/
  | accepted {item : PendingBroadcast} {id : String}
      (found : w.pending? key = .ok (some item)) (idle : item.broadcastId.truthy = false)
      (hopeful : ceilingReached item.retry retryCeiling = false)
      (answered : (r.collaborators.hub.broadcast item.request (r.targetContract item) w.env).1 =
        .ok id)
      (cache : r.Writes key w w' { item with broadcastId := .str id }) :
      BroadcastTurn r key w w' [r.broadcastAsked item (.ok id)] r.broadcasts.written
  /-- The hub cannot be reached: the operators are told, and a retry is counted. -/
  | refused {item : PendingBroadcast} {fault : Fault} {answer : Except Fault Unit}
      (found : w.pending? key = .ok (some item)) (idle : item.broadcastId.truthy = false)
      (hopeful : ceilingReached item.retry retryCeiling = false)
      (dependency : fault.isDependency = true)
      (cache : r.Writes key w w' { item with retry := item.retry + 1 }) :
      BroadcastTurn r key w w' [r.broadcastAsked item (.error fault),
        Relayer.refusedReported item answer] r.broadcasts.written
  /-- The hub fails in another way, and so does the turn. -/
  | failed {item : PendingBroadcast} {fault : Fault}
      (found : w.pending? key = .ok (some item)) (idle : item.broadcastId.truthy = false)
      (hopeful : ceilingReached item.retry retryCeiling = false)
      (answered : (r.collaborators.hub.broadcast item.request (r.targetContract item) w.env).1 =
        .error fault) (internal : fault.isDependency = false)
      (cache : w'.cache = (w.looked key).cache) :
      BroadcastTurn r key w w' [r.broadcastAsked item (.error fault)] (.error (.fault fault))

namespace Relayer

/-- A report is one event, whether it is made or not. -/
theorem notifySafely_apply (r : Relayer σ) (severity : Severity) (title body : String)
    (w : World σ τ) : ∃ answer env journal, (r.notifySafely severity title body : Work σ τ Unit) w =
      (.ok (), { w with
        env, trace := w.trace ++ [.notified severity title body answer], journal }) := by
  obtain ⟨events, ⟨env, journal, hlater⟩, answer, rfl, hok⟩ :=
    r.notifySafely_asks severity title body w
  exact ⟨answer, env, journal, Prod.ext hok hlater⟩

variable [Seconds τ]

theorem countFailure_apply (r : Relayer σ) (key : String) (item : PendingBroadcast)
    (w : World σ τ) : r.countFailure key item w =
      (r.broadcasts.ttl.check.mapError Halt.fault, { w with
        cache := w.cache.set w.monoNow key
          { item with retry := item.retry + 1, timestamp := w.wallNow.toMillis }.toJson
          (some r.broadcasts.ttl) }) := by
  rw [countFailure, Work.bind_apply_of_ok (Work.now_apply w), BroadcastQueue.put_apply]

variable {key : String} {w : World σ τ} {item : PendingBroadcast}

/-- The turn of an item in flight. -/
theorem settleBroadcast_turn (r : Relayer σ) (found : w.pending? key = .ok (some item))
    (flying : item.broadcastId.truthy = true) : ∃ events,
      w.Turned (r.settleBroadcast key item (w.looked key)).2 events ∧
      BroadcastTurn r key w (r.settleBroadcast key item (w.looked key)).2 events
        ((r.settleBroadcast key item (w.looked key)).1.map fun _ => true) := by
  obtain ⟨w₁, hw₁⟩ : ∃ w₁, w₁ = w.looked key := ⟨_, rfl⟩
  cases hdated : Instant.ofStored item.timestamp with
  | error fault =>
    have hrun : r.settleBroadcast key item (w.looked key) =
        (.error (.fault fault), w.looked key) := by
      rw [settleBroadcast, hdated]
      rfl
    rw [hrun]
    exact ⟨[], ⟨w.env, w.journal, _, by simp; rfl⟩, .undated found flying hdated rfl⟩
  | ok sentAt =>
    obtain ⟨answer, env, hask⟩ : ∃ (answer : StatusAnswer) (env : σ),
        Work.query (r.collaborators.hub.status item.broadcastId.shown (r.targetContract item))
          (.statusRead item.broadcastId.shown (r.targetContract item)) (w.looked key) =
        (answer, { w.looked key with env, trace := w.trace ++ [r.statusAsked item answer] }) :=
      ⟨_, _, rfl⟩
    obtain ⟨journal, hresolve⟩ := resolve_apply Tracker.broadcasts rfl rfl broadcastLogger
      ("broadcast:" ++ item.broadcastId.shown)
      (r.collaborators.hub.status item.broadcastId.shown (r.targetContract item))
      (.statusRead item.broadcastId.shown (r.targetContract item)) sentAt (w.looked key)
    rw [hask] at hresolve
    obtain ⟨w₂, hw₂⟩ : ∃ w₂, w₂ = { w.looked key with
      env, trace := w.trace ++ [r.statusAsked item answer], journal } := ⟨_, rfl⟩
    have houtcome : resolve Tracker.broadcasts broadcastLogger
        ("broadcast:" ++ item.broadcastId.shown)
        (r.collaborators.hub.status item.broadcastId.shown (r.targetContract item))
        (.statusRead item.broadcastId.shown (r.targetContract item)) sentAt (w.looked key) =
          (.ok (answer.outcome (w₂.wallNow - sentAt)), w₂) := by
      rw [hw₂]
      exact hresolve
    have hdate : (Work.ofExcept (.ok sentAt) : Work σ τ Instant) (w.looked key) =
        (.ok sentAt, w.looked key) := rfl
    have hturned (journal : List LogLine) (cache : Cache τ) :
        w.Turned { w₂ with journal, cache } [r.statusAsked item answer] := by
      rw [hw₂]
      exact ⟨env, journal, cache, rfl⟩
    have hcache : w₂.cache = (w.looked key).cache := by rw [hw₂]
    rw [settleBroadcast, hdated, Work.bind_apply_of_ok hdate, Work.bind_apply_of_ok houtcome]
    rcases answer.outcome_cases (w₂.wallNow - sentAt) with
      ⟨rfl, ho⟩ | ⟨hwaits, ho⟩ | ⟨hreleases, ho⟩
    · rw [ho]
      refine ⟨_, hturned _ _, ?_⟩
      exact .settled found flying (congrArg (fun c : Cache τ => c.erase key) hcache)
    · have hkept : BroadcastTurn r key w w₂ [r.statusAsked item answer] (.ok true) :=
        .waiting found flying hdated hwaits hcache
      rcases ho with ho | ho <;> rw [ho] <;> exact ⟨_, hturned w₂.journal w₂.cache, hkept⟩
    · have hcounted (line : LogLine) :
          (do Work.log line; r.countFailure key { item with broadcastId := .null } :
            Work σ τ Unit) w₂ = (r.broadcasts.ttl.check.mapError Halt.fault, { w₂ with
              journal := w₂.journal ++ [line]
              cache := w₂.cache.set w₂.monoNow key { item with
                broadcastId := .null, retry := item.retry + 1
                timestamp := w₂.wallNow.toMillis }.toJson (some r.broadcasts.ttl) }) := by
        rw [Work.bind_apply_of_ok (Work.log_apply line w₂), countFailure_apply]
        rfl
      rcases ho with ho | ho <;> rw [ho] <;> dsimp only <;> rw [hcounted] <;>
        refine ⟨_, hturned _ _, .released found flying hdated hreleases ?_⟩ <;>
        exact congrArg (fun c : Cache τ => c.set _ _ _ _) hcache

/-- The turn of an item that is not in flight. -/
theorem broadcastItem_turn (r : Relayer σ) (found : w.pending? key = .ok (some item))
    (idle : item.broadcastId.truthy = false) : ∃ events,
      w.Turned (r.broadcastItem key item (w.looked key)).2 events ∧
      BroadcastTurn r key w (r.broadcastItem key item (w.looked key)).2 events
        ((r.broadcastItem key item (w.looked key)).1.map fun _ => true) := by
  cases hceiling : ceilingReached item.retry retryCeiling with
  | true =>
    have hdrop : (r.broadcastItem key item : Work σ τ Unit) = (do
        Work.log (broadcastLine .error key item.spentMessage)
        r.notifySafely .error "Hub broadcast error" item.spentMessage
        BroadcastQueue.erase key) := by
      rw [broadcastItem, hceiling, if_pos rfl]
      rfl
    obtain ⟨line, hline⟩ : ∃ line, line = broadcastLine .error key item.spentMessage := ⟨_, rfl⟩
    obtain ⟨answer, env, journal, hnotify⟩ := r.notifySafely_apply .error "Hub broadcast error"
      item.spentMessage { w.looked key with journal := (w.looked key).journal ++ [line] }
    rw [hdrop, ← hline, Work.bind_apply_of_ok (Work.log_apply line _),
      Work.bind_apply_of_ok hnotify]
    exact ⟨[spentReported item answer], ⟨env, journal, _, rfl⟩, .dropped found idle hceiling rfl⟩
  | false =>
    obtain ⟨answer, env, hask⟩ : ∃ answer env,
        Work.query (r.collaborators.hub.broadcast item.request (r.targetContract item))
          (.broadcast (r.targetContract item) item.request) (w.looked key) =
        (answer, { w.looked key with env, trace := w.trace ++ [r.broadcastAsked item answer] }) :=
      ⟨_, _, rfl⟩
    have hanswer : (r.collaborators.hub.broadcast item.request (r.targetContract item) w.env).1 =
        answer := congrArg Prod.fst hask
    obtain ⟨w₁, hw₁⟩ : ∃ w₁, w₁ = { w.looked key with
      env, trace := w.trace ++ [r.broadcastAsked item answer] } := ⟨_, rfl⟩
    have hkept := Work.attempt_ask
      (r.collaborators.hub.broadcast item.request (r.targetContract item))
      (.broadcast (r.targetContract item) item.request) (w.looked key)
    rw [hask, ← hw₁] at hkept
    rw [broadcastItem, hceiling, if_neg Bool.false_ne_true, Work.bind_apply_of_ok hkept]
    cases answer with
    | ok id =>
      dsimp only
      rw [Work.bind_apply_of_ok (Work.now_apply w₁), Work.bind_apply, BroadcastQueue.put_apply]
      have hturn (journal : List LogLine) (cache : Cache τ)
          (hcache : cache = w₁.cache.set w₁.monoNow key { item with
            broadcastId := .str id, timestamp := w₁.wallNow.toMillis }.toJson
            (some r.broadcasts.ttl)) :
          w.Turned { w₁ with journal, cache } [r.broadcastAsked item (.ok id)] ∧
            BroadcastTurn r key w { w₁ with journal, cache } [r.broadcastAsked item (.ok id)]
              r.broadcasts.written := by
        rw [hcache, hw₁]
        exact ⟨⟨env, _, _, rfl⟩, .accepted found idle hceiling hanswer rfl⟩
      rw [BroadcastQueue.written] at hturn
      cases hcheck : r.broadcasts.ttl.check with
      | ok _ =>
        rw [hcheck] at hturn
        exact ⟨_, hturn _ _ rfl⟩
      | error fault =>
        rw [hcheck] at hturn
        exact ⟨_, hturn _ _ rfl⟩
    | error fault =>
      dsimp only
      cases hdependency : fault.isDependency with
      | true =>
        obtain ⟨line, hline⟩ : ∃ line : LogLine, line = broadcastLine .warning key
          ("error broadcasting " ++ item.type.shown ++ ": " ++ fault.message) := ⟨_, rfl⟩
        obtain ⟨answer, env', journal, hnotify⟩ := r.notifySafely_apply .warn "Hub broadcast error"
          ("Error broadcasting " ++ item.type.shown ++ ". Will be retried")
          { w₁ with journal := w₁.journal ++ [line] }
        rw [if_pos rfl, ← hline, Work.bind_apply_of_ok (Work.log_apply line w₁),
          Work.bind_apply_of_ok hnotify, countFailure_apply, hw₁]
        have htrace : w.trace ++ [r.broadcastAsked item (.error fault),
            refusedReported item answer] =
              w.trace ++ [r.broadcastAsked item (.error fault)] ++
                [refusedReported item answer] := by simp
        exact ⟨[r.broadcastAsked item (.error fault), refusedReported item answer],
          ⟨env', journal, _, by rw [htrace]; rfl⟩, .refused found idle hceiling hdependency rfl⟩
      | false =>
        rw [if_neg Bool.false_ne_true, hw₁]
        exact ⟨_, ⟨env, w.journal, _, rfl⟩, .failed found idle hceiling hanswer hdependency rfl⟩

/-- **The courses of a turn.** -/
theorem advanceBroadcast_turn (r : Relayer σ) (key : String) (w : World σ τ) : ∃ events,
    w.Turned (r.advanceBroadcast key w).2 events ∧
    BroadcastTurn r key w (r.advanceBroadcast key w).2 events (r.advanceBroadcast key w).1 := by
  have hget := BroadcastQueue.get?_apply key w
  have hlooked : w.Turned (w.looked key) [] := ⟨w.env, w.journal, _, by simp; rfl⟩
  have hafter (work : Work σ τ Unit) : (work >>= fun _ => pure true) (w.looked key) =
      ((work (w.looked key)).1.map fun _ => true, (work (w.looked key)).2) := by
    rw [Work.bind_apply]
    cases work (w.looked key) with
    | mk result w' => cases result <;> rfl
  rw [advanceBroadcast]
  cases found : w.pending? key with
  | error fault =>
    rw [found] at hget
    rw [Work.bind_apply_of_error hget]
    exact ⟨[], hlooked, .unreadable found rfl⟩
  | ok item? =>
    rw [found] at hget
    rw [Work.bind_apply_of_ok hget]
    cases item? with
    | none => exact ⟨[], hlooked, .missing found rfl⟩
    | some item =>
      dsimp only
      cases hid : item.broadcastId.truthy with
      | true =>
        obtain ⟨events, hturned, hturn⟩ := r.settleBroadcast_turn found hid
        refine ⟨events, ?_⟩
        simp only [↓reduceIte, hafter]
        exact ⟨hturned, hturn⟩
      | false =>
        obtain ⟨events, hturned, hturn⟩ := r.broadcastItem_turn found hid
        refine ⟨events, ?_⟩
        simp only [Bool.false_eq_true, ↓reduceIte, hafter]
        exact ⟨hturned, hturn⟩

end Relayer

end ChainRelay
