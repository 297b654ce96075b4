import ChainRelay.Proofs.Queue.Rows
import ChainRelay.Proofs.Worker.MessageCourse

/-!
# Submitting transactions

The second pass over a batch of messages sends the transactions that the first one has built. They
are sent in the order of the claim; with ordered submission the first one that is not accepted is
the last one sent.

## Main definitions

* `Delivery` — what becomes of a sent transaction, accepted or rejected
* `Attempt.outcome` — the item of an attempt, by what became of its transaction
* `Complete` — whether a submission was carried to its end
* `Submission` — how attempts were submitted

## Main results

* `Relayer.submit_asks` — the second pass, whatever the answers are
-/

namespace ChainRelay

variable {σ τ : Type}

/-! ### Deliveries -/

/-- What becomes of a sent transaction. -/
abbrev Delivery := Except Fault SendResult

namespace Delivery

/-- The transaction was accepted. -/
def Accepted (d : Delivery) : Prop := ∃ result, d = .ok result ∧ result.success = true

/-- The transaction was not accepted, or the collaborator failed. -/
def Rejected (d : Delivery) : Prop :=
  (∃ result, d = .ok result ∧ result.success = false) ∨
    ∃ fault, d = .error fault ∧ fault.isDependency = true

end Delivery

namespace Attempt

/-- The hash under which an accepted transaction is known: the one that was answered, if there is
one. -/
def acceptedHash (a : Attempt) (result : SendResult) : String :=
  match result.txHash with
  | some hash => if hash = "" then a.transaction.txId else hash
  | none => a.transaction.txId

/-- The item of an attempt, by what became of its transaction. -/
def outcome (a : Attempt) : Delivery → WorkItem
  | .ok result => if result.success then a.accepted result else a.rejected
  | .error _ => a.rejected

/-- The record of a sent transaction. -/
def delivered (a : Attempt) (d : Delivery) : Event := .sent a.transaction d

variable {a : Attempt} {d : Delivery}

theorem outcome_of_accepted {result : SendResult} (h : result.success = true) :
    a.outcome (.ok result) = a.accepted result := if_pos h

theorem outcome_of_rejected (h : d.Rejected) : a.outcome d = a.rejected := by
  rcases h with ⟨result, rfl, h⟩ | ⟨fault, rfl, -⟩
  · rw [outcome, h]
    rfl
  · rfl

/-- What became of a transaction changes only the handle and the retry count. -/
theorem outcome_eq (a : Attempt) (d : Delivery) :
    ∃ txHash retry, a.outcome d = { a.advanced with txHash, retry } := by
  cases d with
  | error fault => exact ⟨_, _, rfl⟩
  | ok result =>
    rw [outcome]
    split
    · rw [accepted]
      split
      · split
        · exact ⟨_, _, rfl⟩
        · exact ⟨_, _, rfl⟩
      · exact ⟨_, _, rfl⟩
    · exact ⟨_, _, rfl⟩

end Attempt

/-- Whether a submission of `n` transactions was carried to its end: all of them were sent, and with
ordered submission accepted, or the last one that was sent is the first one that was rejected. -/
def Complete (ordered : Bool) (n : Nat) (deliveries : List Delivery) : Prop :=
  (deliveries.length = n ∧
    ∀ d ∈ deliveries, d.Accepted ∨ (d.Rejected ∧ ordered = false)) ∨
  (ordered = true ∧ deliveries.length ≤ n ∧ ∃ firsts last, deliveries = firsts ++ [last] ∧
    (∀ d ∈ firsts, d.Accepted) ∧ last.Rejected)

namespace Complete

variable {ordered : Bool} {n : Nat} {deliveries : List Delivery} {d : Delivery}

theorem nil : Complete ordered 0 [] := .inl ⟨rfl, by simp⟩

theorem cons (hd : d.Accepted ∨ (d.Rejected ∧ ordered = false))
    (h : Complete ordered n deliveries) : Complete ordered (n + 1) (d :: deliveries) := by
  rcases h with ⟨hlength, hall⟩ | ⟨hordered, hlength, firsts, last, rfl, hfirsts, hlast⟩
  · refine .inl ⟨by rw [List.length_cons, hlength], fun d' h => ?_⟩
    rcases List.mem_cons.mp h with rfl | h
    · exact hd
    · exact hall d' h
  · have haccepted : d.Accepted := by
      rcases hd with h | ⟨-, h⟩
      · exact h
      · rw [hordered] at h
        cases h
    refine .inr ⟨hordered, Nat.succ_le_succ hlength, d :: firsts, last, rfl, fun d' h => ?_, hlast⟩
    rcases List.mem_cons.mp h with rfl | h
    · exact haccepted
    · exact hfirsts d' h

/-- The cut: nothing is sent after a rejection. -/
theorem cut (hd : d.Rejected) (hordered : ordered = true) : Complete ordered (n + 1) [d] :=
  .inr ⟨hordered, Nat.succ_le_succ (Nat.zero_le n), [], d, rfl, by simp, hd⟩

end Complete

/-! ### The second pass -/

/-- How attempts were submitted, by what was recorded and how it ended: transactions are sent in
order, and if there is a result, the submission was carried to its end. -/
def Submission (ordered : Bool) (attempts : List Attempt) (events : List Event)
    (result : Except Halt (List WorkItem)) : Prop :=
  ∃ deliveries : List Delivery, deliveries.length ≤ attempts.length ∧
    events = List.zipWith Attempt.delivered attempts deliveries ∧
    ∀ out, result = .ok out → out = List.zipWith Attempt.outcome attempts deliveries ∧
      Complete ordered attempts.length deliveries

namespace Submission

variable {ordered : Bool} {a : Attempt} {rest : List Attempt} {d : Delivery}
  {events : List Event}

theorem nil : Submission ordered [] [] (.ok []) := by
  refine ⟨[], Nat.le_refl _, rfl, fun out h => ?_⟩
  cases h
  exact ⟨rfl, .nil⟩

/-- One attempt more, in front. -/
theorem cons {out : List WorkItem} (h : Submission ordered rest events (.ok out))
    (hthrough : d.Accepted ∨ (d.Rejected ∧ ordered = false)) :
    Submission ordered (a :: rest) (a.delivered d :: events) (.ok (a.outcome d :: out)) := by
  obtain ⟨deliveries, hlength, rfl, hout⟩ := h
  obtain ⟨rfl, hcomplete⟩ := hout out rfl
  refine ⟨d :: deliveries, Nat.succ_le_succ hlength, rfl, fun out h => ?_⟩
  cases h
  exact ⟨rfl, hcomplete.cons hthrough⟩

/-- One attempt more, in front of others that ended without a result. -/
theorem cons_error {halt : Halt} (h : Submission ordered rest events (.error halt)) :
    Submission ordered (a :: rest) (a.delivered d :: events) (.error halt) := by
  obtain ⟨deliveries, hlength, rfl, -⟩ := h
  exact ⟨d :: deliveries, Nat.succ_le_succ hlength, rfl, fun out h => by cases h⟩

/-- Nothing is sent after a rejection, if the order matters. -/
theorem cut (hd : d.Rejected) :
    Submission true (a :: rest) [a.delivered d] (.ok [a.outcome d]) := by
  refine ⟨[d], Nat.succ_le_succ (Nat.zero_le _), by simp, fun out h => ?_⟩
  cases h
  exact ⟨by simp, .cut hd rfl⟩

theorem halted {halt : Halt} :
    Submission ordered (a :: rest) [a.delivered d] (.error halt) :=
  ⟨[d], Nat.succ_le_succ (Nat.zero_le _), by simp, fun out h => by cases h⟩

end Submission

namespace Relayer

/-- A transaction is sent once, and a failing collaborator counts as a rejection. -/
theorem sendAttempt_asks (r : Relayer σ) (a : Attempt) :
    (r.sendAttempt a : Work σ τ SendResult).Asks fun events result =>
      ∃ d : Delivery, events = [a.delivered d] ∧ ∀ answer, result = .ok answer →
        (answer.success = true ∧ d = .ok answer) ∨ (answer.success = false ∧ d.Rejected) := by
  rw [sendAttempt]
  refine Work.Asks.bind (Work.asks_attempt (Work.asks_ask _ _)) ?_ ?_
  · rintro kept first ⟨d, rfl, hkept⟩
    obtain rfl : kept = d := Work.mapError_fault_injective hkept
    cases kept with
    | ok answer =>
      refine (Work.asks_pure _).mono ?_
      rintro rest result ⟨rfl, rfl⟩
      refine ⟨.ok answer, rfl, fun answer' h => ?_⟩
      cases h
      cases hsuccess : answer.success with
      | true => exact .inl ⟨rfl, rfl⟩
      | false => exact .inr ⟨rfl, .inl ⟨answer, rfl, hsuccess⟩⟩
    | error fault =>
      dsimp only
      by_cases hdependency : fault.isDependency = true
      · rw [if_pos hdependency]
        refine Work.asks_log_bind ((Work.asks_pure _).mono ?_)
        rintro rest result ⟨rfl, rfl⟩
        refine ⟨.error fault, rfl, fun answer' h => ?_⟩
        cases h
        exact .inr ⟨rfl, .inr ⟨fault, rfl, hdependency⟩⟩
      · rw [if_neg hdependency]
        refine (Work.asks_fail _).mono ?_
        rintro rest result ⟨rfl, rfl⟩
        exact ⟨.error fault, rfl, fun answer' h => by cases h⟩
  · rintro halt events ⟨d, rfl, -⟩
    exact ⟨d, rfl, fun answer' h => by cases h⟩

/-- **The second pass.** -/
theorem submit_asks (r : Relayer σ) (ordered : Bool) (attempts : List Attempt) :
    (r.submit ordered attempts : Work σ τ (List WorkItem)).Asks (Submission ordered attempts) := by
  induction attempts with
  | nil =>
    rw [submit]
    refine (Work.asks_pure _).mono ?_
    rintro events result ⟨rfl, rfl⟩
    exact .nil
  | cons a rest ih =>
    rw [submit]
    refine Work.Asks.bind (r.sendAttempt_asks a) ?_ ?_
    · rintro answer first ⟨d, rfl, hd⟩
      -- the rest of the attempts, once this one is through
      have goOn (hthrough : d.Accepted ∨ (d.Rejected ∧ ordered = false)) :
          (r.submit ordered rest >>= fun out => pure (a.outcome d :: out) :
            Work σ τ (List WorkItem)).Asks fun events result =>
              Submission ordered (a :: rest) ([a.delivered d] ++ events) result := by
        refine Work.Asks.bind ih ?_ ?_
        · rintro out events h
          refine (Work.asks_pure _).mono ?_
          rintro events' result ⟨rfl, rfl⟩
          rw [List.append_nil]
          exact h.cons hthrough
        · rintro halt events h
          exact h.cons_error
      rcases hd answer rfl with ⟨hsuccess, rfl⟩ | ⟨hsuccess, hrejected⟩
      · have hthrough := goOn (.inl ⟨answer, rfl, hsuccess⟩)
        rw [Attempt.outcome_of_accepted hsuccess] at hthrough
        rw [if_pos hsuccess]
        exact hthrough
      · rw [if_neg (by rw [hsuccess]; simp)]
        refine Work.asks_log_bind ?_
        cases hordered : ordered with
        | true =>
          refine (Work.asks_pure _).mono ?_
          rintro events result ⟨rfl, rfl⟩
          rw [← Attempt.outcome_of_rejected hrejected]
          exact .cut hrejected
        | false =>
          have hthrough := goOn (.inr ⟨hrejected, hordered⟩)
          rw [Attempt.outcome_of_rejected hrejected, hordered] at hthrough
          exact hthrough
    · rintro halt events ⟨d, rfl, -⟩
      exact .halted

end Relayer

end ChainRelay
