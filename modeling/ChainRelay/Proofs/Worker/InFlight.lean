import ChainRelay.Proofs.Confirmation.Resolution
import ChainRelay.Proofs.Worker.Turn
import ChainRelay.World.Simulation

/-!
# The course of an item in a batch

Two workers send transactions for work items, and both begin with what is already in flight. What
they do with an item takes one of four courses: nothing is in flight and the item is worked on
afresh; what is in flight may still succeed and the item is left alone; it has succeeded and the
item is finished; or it is out of the way and the item is worked on afresh after all.

## The contract

The chain is asked once, about the handle of the item itself, and before anything else. Which course
is taken depends on its answer and on how long ago the handle was stored, and on nothing else.

## Main definitions

* `Sighting.Waiting`, `Sighting.Releases` — when an item is left alone, and when it is not
* `Course` — the four courses, over any way to work on an item afresh

## Main results

* `Course.of_resolution` — work that resolves first takes one of the four courses
-/

namespace ChainRelay

variable {σ τ β : Type}

/-! ### Kinds of events -/

namespace Event

/-- The chain was asked about a transaction. -/
def isLookup : Event → Bool
  | lookedUp _ _ => true
  | _ => false

/-- An executor was asked to build or to send a transaction. -/
def isAttempt : Event → Bool
  | built _ _ | sent _ _ => true
  | _ => false

/-- Something else: a report, or a question that moves nothing. -/
def IsAside (e : Event) : Prop := e.isLookup = false ∧ e.isAttempt = false

/-- The transaction that was sent. -/
def sent? : Event → Option SignedTransaction
  | sent transaction _ => some transaction
  | _ => none

/-- The transaction that was built. -/
def built? : Event → Option SignedTransaction
  | built _ (.ok outcome) => outcome.transaction
  | _ => none

theorem IsAside.sent?_eq {e : Event} (h : e.IsAside) : e.sent? = none := by
  cases e <;> first | rfl | cases h.2

theorem IsAside.not_built {item : WorkItem} {answer : Except Fault BuildOutcome} :
    ¬ (built item answer).IsAside := fun h => by cases h.2

end Event

namespace Relayer

/-- A relayer with collaborators in memory. -/
def simulated : Relayer Simulation where
  collaborators := Simulation.collaborators
  settings := {}
  services := ⟨"hub-token-service", "token-service"⟩

/-- A report is recorded with its answer, and nothing else is; a failure to report is only
logged. -/
theorem notifySafely_asks (r : Relayer σ) (severity : Severity) (title body : String) :
    (r.notifySafely severity title body : Work σ τ Unit).Asks fun events result =>
      ∃ answer, events = [.notified severity title body answer] ∧ result = .ok () := by
  refine Work.Asks.bind (Work.asks_attempt_ask _ _) ?_ ?_
  · rintro outcome first ⟨answer, rfl, -⟩
    have hend (next : Work σ τ Unit) (hnext : next.Asks fun rest result =>
        rest = [] ∧ result = .ok ()) : next.Asks fun rest result => ∃ answer',
          [Event.notified severity title body answer] ++ rest =
            [.notified severity title body answer'] ∧ result = .ok () :=
      hnext.mono fun rest result ⟨hrest, hok⟩ => ⟨answer, by rw [hrest]; rfl, hok⟩
    cases outcome with
    | ok _ => exact hend _ (Work.asks_pure ())
    | error fault => exact hend _ (Work.asks_log _)
  · rintro halt events ⟨answer, -, hok⟩
    cases hok

/-- What holds of a report whatever is answered holds of what is recorded. -/
theorem notifySafely_yields_of (r : Relayer σ) (severity : Severity) (title body : String)
    {p : Event → Prop} (h : ∀ answer, p (.notified severity title body answer)) :
    (r.notifySafely severity title body : Work σ τ Unit).Yields p fun _ => True := by
  refine (r.notifySafely_asks severity title body).mono ?_
  rintro events result ⟨answer, rfl, -⟩
  exact ⟨by simpa using h answer, fun _ _ => trivial⟩

/-- Reports are neither lookups nor attempts. -/
theorem notifySafely_yields (r : Relayer σ) (severity : Severity) (title body : String) :
    (r.notifySafely severity title body : Work σ τ Unit).Yields Event.IsAside fun _ => True :=
  r.notifySafely_yields_of severity title body fun _ => ⟨rfl, rfl⟩

/-- A report always ends normally. -/
theorem notifySafely_always (r : Relayer σ) (severity : Severity) (title body : String) :
    (r.notifySafely severity title body : Work σ τ Unit).Always (· = .ok ()) := by
  intro w
  obtain ⟨_, -, _, -, hok⟩ := r.notifySafely_asks severity title body w
  exact hok

/-- A report is logged and told to the operators, whether or not they can be reached. -/
theorem report_apply {α : Type} (r : Relayer σ) (line : LogLine) (severity : Severity)
    (title body : String) (a : α) (w : World σ τ) :
    ∃ w' answer, (do
        Work.log line
        r.notifySafely severity title body
        return a : Work σ τ α) w = (.ok a, w') ∧
      w.Later w' [.notified severity title body answer] := by
  have hreport : (do Work.log line; r.notifySafely severity title body; return a :
      Work σ τ α).Asks fun events result =>
        (∃ answer, events = [.notified severity title body answer]) ∧ result = .ok a := by
    refine Work.asks_log_bind (Work.Asks.bind (r.notifySafely_asks _ _ _) ?_ ?_)
    · rintro _ first ⟨answer, rfl, -⟩
      refine (Work.asks_pure a).mono ?_
      rintro rest result ⟨rfl, rfl⟩
      exact ⟨⟨answer, rfl⟩, rfl⟩
    · rintro halt events ⟨answer, -, h⟩
      cases h
  obtain ⟨events, later, ⟨answer, rfl⟩, hok⟩ := hreport w
  exact ⟨_, answer, Prod.ext hok rfl, later⟩

end Relayer

/-! ### What a sighting allows -/

namespace Sighting

/-- The transaction may still succeed, or nothing is known of it. -/
def Waiting (s : Sighting) (age : ℤ) : Prop :=
  s.Raised ∨ (s.Unsettled ∧ age ≤ finalityMicros)

/-- The transaction no longer stands in the way of another one: it has failed, it was given up, or
it has succeeded as a step that is followed by another. -/
def Releases (s : Sighting) (age : ℤ) (continues : Bool) : Prop :=
  s.Failed ∨ (s.Unsettled ∧ finalityMicros < age) ∨ (s.Succeeded ∧ continues = true)

variable {s : Sighting} {age : ℤ} {continues : Bool}

theorem Waiting.not_releases (h : s.Waiting age) : ¬ s.Releases age continues := by
  rcases h with hs | ⟨hs, hle⟩
  · rintro (h | ⟨h, -⟩ | ⟨h, -⟩)
    · exact hs.not_failed h
    · exact hs.not_unsettled h
    · exact h.not_raised hs
  · rintro (h | ⟨-, hlt⟩ | ⟨h, -⟩)
    · exact hs.not_failed h
    · exact absurd hlt (not_lt.mpr hle)
    · exact h.not_unsettled hs

end Sighting

/-! ### The four courses -/

namespace Relayer

/-- The age of what is in flight for an item once the chain has answered, in microseconds. Without
a time of its own it counts from the moment of asking. -/
def age (r : Relayer σ) (item : WorkItem) (txHash : String) (w : World σ τ) : ℤ :=
  (r.lookedAt txHash w).wallNow - item.updatedAt.getD w.wallNow

end Relayer

section

variable (r : Relayer σ) (item : WorkItem) (w : World σ τ) (continues : Bool)

/-- The course of an item in a world, by what was recorded and how it ended. `fresh` describes work
on an item with nothing in flight, `leave` and `finish` are the results for an item that is left
alone and for one that is done. -/
inductive Course (fresh : List Event → Except Halt β → Prop) (leave finish : β) :
    List Event → Except Halt β → Prop
  /-- Nothing is in flight. -/
  | unsent {events : List Event} {result : Except Halt β} (unsent : item.txHash = none)
      (hfresh : fresh events result) : Course fresh leave finish events result
  /-- What is in flight may still succeed. -/
  | left {txHash : String} (sent : item.txHash = some txHash)
      (waiting : (r.sighting txHash w).Waiting (r.age item txHash w)) :
      Course fresh leave finish [.lookedUp txHash (r.sighting txHash w)] (.ok leave)
  /-- What is in flight has succeeded, and there is nothing more to do. -/
  | finished {txHash : String} (sent : item.txHash = some txHash)
      (succeeded : (r.sighting txHash w).Succeeded) (last : continues = false) :
      Course fresh leave finish [.lookedUp txHash (r.sighting txHash w)] (.ok finish)
  /-- What is in flight is out of the way. -/
  | renewed {txHash : String} {events : List Event} {result : Except Halt β}
      (sent : item.txHash = some txHash)
      (releases : (r.sighting txHash w).Releases (r.age item txHash w) continues)
      (hfresh : fresh events result) :
      Course fresh leave finish (.lookedUp txHash (r.sighting txHash w) :: events) result

end

namespace Course

variable {r : Relayer σ} {item : WorkItem} {w : World σ τ} {continues : Bool}
  {fresh : List Event → Except Halt β → Prop} {leave finish : β}
  {events : List Event} {result : Except Halt β}

/-- A description of fresh work may be replaced by a weaker one. -/
theorem mono {fresh' : List Event → Except Halt β → Prop}
    (hfresh : ∀ events result, fresh events result → fresh' events result)
    (h : Course r item w continues fresh leave finish events result) :
    Course r item w continues fresh' leave finish events result := by
  cases h with
  | unsent unsent h => exact .unsent unsent (hfresh _ _ h)
  | left sent waiting => exact .left sent waiting
  | finished sent succeeded last => exact .finished sent succeeded last
  | renewed sent releases h => exact .renewed sent releases (hfresh _ _ h)

/-- Either nothing was done but to look, or the item was worked on afresh and nothing but the lookup
was done besides. -/
theorem looked_or_fresh (h : Course r item w continues fresh leave finish events result) :
    ((result = .ok leave ∨ result = .ok finish) ∧ ∀ e ∈ events, e.isLookup = true) ∨
      ∃ rest, fresh rest result ∧ ∀ e, e.isLookup = false → (e ∈ events ↔ e ∈ rest) := by
  cases h with
  | unsent _ h => exact .inr ⟨events, h, fun e _ => Iff.rfl⟩
  | left _ _ => exact .inl ⟨.inl rfl, by simp [Event.isLookup]⟩
  | finished _ _ _ => exact .inl ⟨.inr rfl, by simp [Event.isLookup]⟩
  | renewed _ _ h =>
    refine .inr ⟨_, h, fun e he => ?_⟩
    rw [List.mem_cons]
    constructor
    · rintro (rfl | hmem)
      · cases he
      · exact hmem
    · exact .inr

/-- **Resolving first.** Work that resolves what is in flight and goes on by the outcome takes one
of the four courses, if it goes on as `next` is assumed to. -/
theorem of_resolution {work : Work σ τ β} (logger : String) (freshWork : Work σ τ β)
    (next : String → Confirmation → Work σ τ β) (hunsent : item.txHash = none → work = freshWork)
    (hsent : ∀ txHash, item.txHash = some txHash → work = (Work.now >>= fun now =>
      r.resolveTransaction logger txHash (item.updatedAt.getD now) >>= next txHash))
    (hpending : ∀ txHash, next txHash .pending = pure leave)
    (herrored : ∀ txHash, next txHash .errored = pure leave)
    (hfailed : ∀ txHash, next txHash .failed = freshWork)
    (htimedOut : ∀ txHash, next txHash .timedOut = freshWork)
    (hconfirmed : ∀ txHash, (next txHash .confirmed).Asks fun events result =>
      (continues = true ∧ fresh events result) ∨
      (continues = false ∧ events = [] ∧ result = .ok finish))
    (hfresh : freshWork.Asks fresh) (w : World σ τ) :
    ∃ events, w.Later (work w).2 events ∧
      Course r item w continues fresh leave finish events (work w).1 := by
  cases htx : item.txHash with
  | none =>
    obtain ⟨events, later, holds⟩ := hfresh w
    rw [hunsent htx]
    exact ⟨events, later, .unsent htx holds⟩
  | some txHash =>
    obtain ⟨journal, hresolve⟩ := r.resolveTransaction_apply logger txHash
      (item.updatedAt.getD w.wallNow) w
    obtain ⟨w', hw'⟩ : ∃ w', w' = { r.lookedAt txHash w with journal } := ⟨_, rfl⟩
    have hlater : w.Later w' [.lookedUp txHash (r.sighting txHash w)] := by
      rw [hw']
      exact ⟨_, journal, rfl⟩
    have hwork : work w =
        next txHash ((r.sighting txHash w).outcome (r.age item txHash w)) w' := by
      rw [hsent txHash htx, Work.bind_apply_of_ok (Work.now_apply w),
        Work.bind_apply_of_ok hresolve, hw']
      rfl
    -- what happens once the item is worked on afresh
    have again (releases : (r.sighting txHash w).Releases (r.age item txHash w) continues)
        {rest : List Event} {result : Except Halt β} {w'' : World σ τ} (later : w'.Later w'' rest)
        (holds : fresh rest result) : ∃ events, w.Later w'' events ∧
          Course r item w continues fresh leave finish events result :=
      ⟨_, hlater.trans later, .renewed htx releases holds⟩
    rw [hwork]
    rcases (r.sighting txHash w).outcome_cases (r.age item txHash w) with
      ⟨hs, houtcome⟩ | ⟨hs, hage, houtcome⟩ | ⟨hs, hage, houtcome⟩ | ⟨hs, houtcome⟩ |
      ⟨hs, houtcome⟩
    · rw [houtcome, herrored, Work.pure_apply]
      exact ⟨_, hlater, .left htx (.inl hs)⟩
    · rw [houtcome, hpending, Work.pure_apply]
      exact ⟨_, hlater, .left htx (.inr ⟨hs, hage⟩)⟩
    · rw [houtcome, htimedOut]
      obtain ⟨rest, later, holds⟩ := hfresh w'
      exact again (.inr (.inl ⟨hs, hage⟩)) later holds
    · rw [houtcome]
      obtain ⟨rest, later, ⟨hc, holds⟩ | ⟨hc, rfl, hresult⟩⟩ := hconfirmed txHash w'
      · exact again (.inr (.inr ⟨hs, hc⟩)) later holds
      · rw [hresult]
        exact ⟨_, hlater.trans later, .finished htx hs hc⟩
    · rw [houtcome, hfailed]
      obtain ⟨rest, later, holds⟩ := hfresh w'
      exact again (.inl hs) later holds

end Course

end ChainRelay
