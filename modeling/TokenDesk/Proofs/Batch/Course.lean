import TokenDesk.Batch.Execution
import TokenDesk.Ledger.Journal

/-! The courses that payments can take.

A course is everything that a ledger answers to the payments of one plan. Its
index is the nonce of the next payment, so a course cannot number its payments
in any other way. The report of a run and the calls in its journal are both read
off the course; which answers come is left to the ledger.
-/

set_option autoImplicit false

namespace TokenDesk.Batch

def Order.request (order : Order) (gasPrice : Amount) (nonce : UInt64) (payment : Payment) : Transfer :=
  { payer := order.payer, destination := payment.destination, amount := payment.amount, nonce, gasPrice }

/-- A payment after which the next may follow. Only a run that waits has its confirmation. -/
inductive Settlement : Bool → Type where
  | broadcast (sent : Submitted) : Settlement false
  | confirmed (sent : Submitted) (confirmation : Confirmation) : Settlement true

/-- A payment that ends the run. Only a run that waits can miss a confirmation. -/
inductive Halt : Bool → Type where
  | refused {waits : Bool} (cause : LedgerError) : Halt waits
  | unconfirmed (sent : Submitted) (cause : LedgerError) : Halt true

inductive Course (waits : Bool) : Option UInt64 → List Payment → Type where
  | finished {next : Option UInt64} : Course waits next []
  | exhausted {payment : Payment} {rest : List Payment} : Course waits none (payment :: rest)
  | halted {nonce : UInt64} {payment : Payment} {rest : List Payment} (halt : Halt waits) :
      Course waits (some nonce) (payment :: rest)
  | settled {nonce : UInt64} {payment : Payment} {rest : List Payment} (first : Settlement waits)
      (others : Course waits (nonceAfter nonce) rest) : Course waits (some nonce) (payment :: rest)

variable {waits : Bool}

def nonceAt (number : Nat) : Option UInt64 :=
  if number < UInt64.size then some (UInt64.ofNat number) else none

theorem nonceAt_toNat (nonce : UInt64) : nonceAt nonce.toNat = some nonce := by
  simp [nonceAt, nonce.toNat_lt_size]

theorem nonceAfter_eq (nonce : UInt64) : nonceAfter nonce = nonceAt (nonce.toNat + 1) := by
  simp only [nonceAfter, nonceAt]
  split
  · rw [UInt64.ofNat_add, UInt64.ofNat_toNat]; rfl
  · rfl

theorem eq_toNat_of_nonceAt {number : Nat} {nonce : UInt64} (same : some nonce = nonceAt number) :
    number = nonce.toNat := by
  simp only [nonceAt] at same
  by_cases fits : number < UInt64.size
  · rw [if_pos fits] at same
    rw [Option.some.inj same, UInt64.toNat_ofNat_of_lt' fits]
  · rw [if_neg fits] at same
    cases same

theorem add_one_le_of_nonceAt {number : Nat} {nonce : UInt64} (same : some nonce = nonceAt number) :
    number + 1 ≤ UInt64.size := by
  rw [eq_toNat_of_nonceAt same]
  exact nonce.toNat_lt_size

theorem nonceAfter_of_nonceAt {number : Nat} {nonce : UInt64} (same : some nonce = nonceAt number) :
    nonceAfter nonce = nonceAt (number + 1) := by
  rw [eq_toNat_of_nonceAt same]
  exact nonceAfter_eq nonce

theorem size_le_of_nonceAt {number : Nat} (same : none = nonceAt number) : UInt64.size ≤ number := by
  simp only [nonceAt] at same
  split at same
  · cases same
  · omega

namespace Settlement

def sent : Settlement waits → Submitted
  | broadcast sent => sent
  | confirmed sent _ => sent

def outcome (nonce : UInt64) : Settlement waits → Outcome
  | broadcast sent => .broadcast nonce sent.tx
  | confirmed sent confirmation => .confirmed nonce sent.tx confirmation.gasUsed confirmation.success

def gas : Settlement waits → UInt64
  -- Nobody waits to see what a broadcast transfer burns, so its limit is what counts.
  | broadcast sent => sent.gasLimit
  | confirmed _ confirmation => confirmation.gasUsed

def calls (request : Transfer) : Settlement waits → List LedgerEvent
  | broadcast sent => [.transfer request (.ok sent)]
  | confirmed sent confirmation =>
    [.transfer request (.ok sent), .waitConfirmed sent.tx (.ok confirmation)]

end Settlement

namespace Halt

def sent? : Halt waits → Option Submitted
  | refused _ => none
  | unconfirmed sent _ => some sent

def failure (index : Nat) : Halt waits → Failure
  | refused cause => .submissionFailed index cause
  | unconfirmed sent cause => .confirmationFailed index sent.tx cause

def outcome (nonce : UInt64) : Halt waits → Outcome
  | refused cause => .failed nonce none cause
  | unconfirmed sent cause => .failed nonce (some sent.tx) cause

def nextNonce (nonce : UInt64) : Halt waits → Option UInt64
  -- A refused transfer leaves its nonce to the next one.
  | refused _ => some nonce
  | unconfirmed _ _ => nonceAfter nonce

def calls (request : Transfer) : Halt waits → List LedgerEvent
  | refused cause => [.transfer request (.error cause)]
  | unconfirmed sent cause => [.transfer request (.ok sent), .waitConfirmed sent.tx (.error cause)]

end Halt

namespace Course

variable {next : Option UInt64} {payments : List Payment}

def stretch (gasPrice : Amount) (index : Nat) {next : Option UInt64} {payments : List Payment} :
    Course waits next payments → Stretch
  | finished => { failure := none, nextNonce := next, gasTotal := 0, outcomes := [] }
  | exhausted => .stopped (index, .nonceOverflow index) none (payments.map fun _ => .pending)
  | @halted _ nonce _ rest halt =>
    .stopped (index, halt.failure index) (halt.nextNonce nonce)
      (halt.outcome nonce :: rest.map fun _ => .pending)
  | @settled _ nonce _ _ first others =>
    .after (first.outcome nonce) (gasPrice * first.gas.toNat) (others.stretch gasPrice (index + 1))

def calls (order : Order) (gasPrice : Amount) {next : Option UInt64} {payments : List Payment} :
    Course waits next payments → List LedgerEvent
  | finished => []
  | exhausted => []
  | @halted _ nonce payment _ halt => halt.calls (order.request gasPrice nonce payment)
  | @settled _ nonce payment _ first others =>
    first.calls (order.request gasPrice nonce payment) ++ others.calls order gasPrice

end Course

/-! Courses as ledgers make them. -/

section
variable {ε ε' α : Type}

@[simp] theorem mapError_ok (f : ε → ε') (value : α) : (Except.ok value).mapError f = .ok value := rfl

@[simp] theorem mapError_error (f : ε → ε') (cause : ε) :
    (Except.error cause : Except ε α).mapError f = .error (f cause) := rfl

end

section
variable {m : Type → Type} [Monad m]

def attempt (ledger : Ledger m) (request : Transfer) : (waits : Bool) → ExceptT (Halt waits) m (Settlement waits)
  | false => do
    let sent ← (ledger.transfer request).adapt .refused
    return .broadcast sent
  | true => do
    let sent ← (ledger.transfer request).adapt .refused
    let confirmation ← (ledger.waitConfirmed sent.tx).adapt (.unconfirmed sent)
    return .confirmed sent confirmation

def course (ledger : Ledger m) (order : Order) (gasPrice : Amount) :
    (next : Option UInt64) → (payments : List Payment) → m (Course order.waits next payments)
  | _, [] => return .finished
  | none, _ :: _ => return .exhausted
  | some nonce, payment :: rest => do
    match ← (attempt ledger (order.request gasPrice nonce payment) order.waits).run with
    | .error halt => return .halted halt
    | .ok first => return .settled first (← course ledger order gasPrice (nonceAfter nonce) rest)

variable [LawfulMonad m]

theorem payFrom_cons (ledger : Ledger m) (order : Order) (gasPrice : Amount) (index : Nat)
    (nonce : UInt64) (payment : Payment) (rest : List Payment) :
    payFrom ledger order gasPrice index (some nonce) (payment :: rest) = do
      match ← (attempt ledger (order.request gasPrice nonce payment) order.waits).run with
      | .error halt =>
        return .stopped (index, halt.failure index) (halt.nextNonce nonce)
          (halt.outcome nonce :: rest.map fun _ => .pending)
      | .ok first =>
        return .after (first.outcome nonce) (gasPrice * first.gas.toNat)
          (← payFrom ledger order gasPrice (index + 1) (nonceAfter nonce) rest) := by
  obtain ⟨payer, fixedPrice, fixedNonce, waits⟩ := order
  simp only [payFrom]
  -- Both sides ask the same questions in the same order, so each answer is followed through both.
  cases waits with
  | false =>
    simp only [attempt, settle, ExceptT.run_bind, ExceptT.run_adapt, ExceptT.run_pure, bind_assoc,
      bind_map_left]
    congr 1
    funext answer
    cases answer <;>
      simp [Halt.failure, Halt.nextNonce, Halt.outcome, Settlement.outcome, Settlement.gas]
  | true =>
    simp only [attempt, settle, ExceptT.run_bind, ExceptT.run_adapt, bind_assoc, bind_map_left]
    congr 1
    funext answer
    cases answer with
    | error cause => simp [Halt.failure, Halt.nextNonce, Halt.outcome]
    | ok sent =>
      simp only [mapError_ok, ite_true, ExceptT.run_bind, ExceptT.run_pure, bind_assoc]
      congr 1
      funext answer
      cases answer <;>
        simp [Halt.failure, Halt.nextNonce, Halt.outcome, Settlement.outcome, Settlement.gas]

theorem payFrom_eq_course (ledger : Ledger m) (order : Order) (gasPrice : Amount) (index : Nat)
    (next : Option UInt64) (payments : List Payment) :
    payFrom ledger order gasPrice index next payments =
      Course.stretch gasPrice index <$> course ledger order gasPrice next payments := by
  induction payments generalizing index next with
  | nil => cases next <;> simp [payFrom, course, Course.stretch]
  | cons payment rest ih =>
    cases next with
    | none => simp [payFrom, course, Course.stretch]
    | some nonce =>
      simp only [payFrom_cons, course, map_bind]
      congr 1
      funext answer
      cases answer with
      | error halt => simp [Course.stretch]
      | ok first => simp [ih, Course.stretch]

def answerCalls (request : Transfer) : Except (Halt waits) (Settlement waits) → List LedgerEvent
  | .error halt => halt.calls request
  | .ok first => first.calls request

theorem attempt_recorded (ledger : Ledger m) (request : Transfer) (journal : List LedgerEvent) :
    (attempt ledger.recorded request waits).run.run journal =
      (fun answer => (answer, journal ++ answerCalls request answer)) <$> (attempt ledger request waits).run := by
  cases waits with
  | false =>
    simp only [attempt, Ledger.recorded, ExceptT.run_bind, ExceptT.run_adapt, ExceptT.run_pure,
      StateT.run_bind, Ledger.run_noted, bind_map_left, map_bind]
    congr 1
    funext answer
    cases answer <;> simp [answerCalls, Halt.calls, Settlement.calls]
  | true =>
    simp only [attempt, Ledger.recorded, ExceptT.run_bind, ExceptT.run_adapt, ExceptT.run_pure,
      StateT.run_bind, Ledger.run_noted, bind_map_left, map_bind]
    congr 1
    funext answer
    cases answer with
    | error cause => simp [answerCalls, Halt.calls]
    | ok sent =>
      simp only [mapError_ok, StateT.run_bind, Ledger.run_noted, bind_map_left, map_bind]
      congr 1
      funext answer
      cases answer <;> simp [answerCalls, Halt.calls, Settlement.calls]

theorem course_recorded (ledger : Ledger m) (order : Order) (gasPrice : Amount)
    (next : Option UInt64) (payments : List Payment) (journal : List LedgerEvent) :
    (course ledger.recorded order gasPrice next payments).run journal =
      (fun taken => (taken, journal ++ taken.calls order gasPrice)) <$>
        course ledger order gasPrice next payments := by
  induction payments generalizing next journal with
  | nil => cases next <;> simp [course, Course.calls]
  | cons payment rest ih =>
    cases next with
    | none => simp [course, Course.calls]
    | some nonce =>
      simp only [course, StateT.run_bind, attempt_recorded, map_bind, bind_map_left]
      congr 1
      funext answer
      cases answer with
      | error halt => simp [Course.calls, answerCalls]
      | ok first => simp [ih, Course.calls, answerCalls]

end

end TokenDesk.Batch
