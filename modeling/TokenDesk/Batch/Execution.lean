import TokenDesk.Batch.Plan
import TokenDesk.Batch.Report

/-! Running a plan against a ledger.

The preflight checks that the payer's balance covers the total and fixes one
gas price and the first nonce. Payments are then submitted one after another
with consecutive nonces, each confirmed before the next if that is asked for.
The first failure ends the run.
-/

set_option autoImplicit false

namespace TokenDesk.Batch

structure Order where
  payer : Address
  gasPrice : Option Amount
  startNonce : Option UInt64
  waits : Bool
  deriving DecidableEq, Repr

/-- The nonce after another one; the last of 64 bits has none. -/
def nonceAfter (nonce : UInt64) : Option UInt64 :=
  if nonce.toNat + 1 < UInt64.size then some (nonce + 1) else none

structure Stretch where
  failure : Option (Nat × Failure)
  nextNonce : Option UInt64
  gasTotal : Amount
  outcomes : List Outcome
  deriving DecidableEq, Repr

namespace Stretch

def stopped (failure : Nat × Failure) (nextNonce : Option UInt64) (outcomes : List Outcome) : Stretch :=
  { failure := some failure, nextNonce, gasTotal := 0, outcomes }

def after (outcome : Outcome) (gas : Amount) (rest : Stretch) : Stretch :=
  { rest with gasTotal := gas + rest.gasTotal, outcomes := outcome :: rest.outcomes }

def ending (stretch : Stretch) : Ending :=
  match stretch.failure with
  | none => @Ending.completed stretch.gasTotal (stretch.outcomes.filterMap Outcome.tx?)
  | some (index, cause) => .abortedAt index cause

theorem ending_eq_abortedAt (stretch : Stretch) (index : Nat) (cause : Failure) :
    stretch.ending = .abortedAt index cause ↔ stretch.failure = some (index, cause) := by
  unfold ending
  cases stretch.failure <;> simp [Prod.ext_iff]

theorem ending_eq_completed (stretch : Stretch) (gasTotal : Amount) (txIds : List TxId) :
    stretch.ending = @Ending.completed gasTotal txIds ↔
      stretch.failure = none ∧ gasTotal = stretch.gasTotal ∧
        txIds = stretch.outcomes.filterMap Outcome.tx? := by
  unfold ending
  cases stretch.failure <;> simp [eq_comm]

theorem ending_ne_abortedPreflight (stretch : Stretch) (cause : Failure) :
    stretch.ending ≠ .abortedPreflight cause := by
  unfold ending
  split <;> simp

end Stretch

variable {m : Type → Type} [Monad m]

def preflight (ledger : Ledger m) (order : Order) (plan : Plan) : ExceptT Failure m (Amount × UInt64) := do
  let balance ← (ledger.balanceOf order.payer).adapt Failure.preflight
  if balance < plan.total then throw (.insufficientFunds balance plan.total)
  let gasPrice ← match order.gasPrice with
    | some price => pure price
    | none => ledger.suggestGasPrice.adapt Failure.preflight
  let startNonce ← match order.startNonce with
    | some nonce => pure nonce
    | none => (ledger.pendingNonce order.payer).adapt Failure.preflight
  return (gasPrice, startNonce)

def settle (ledger : Ledger m) (waits : Bool) (nonce : UInt64) (sent : Submitted) :
    ExceptT LedgerError m (Outcome × UInt64) :=
  if waits then do
    let confirmation ← ledger.waitConfirmed sent.tx
    return (.confirmed nonce sent.tx confirmation.gasUsed confirmation.success, confirmation.gasUsed)
  else
    return (.broadcast nonce sent.tx, sent.gasLimit)

/-- Make the payments, the first of which has the given index and nonce. -/
def payFrom (ledger : Ledger m) (order : Order) (gasPrice : Amount) (index : Nat)
    (nextNonce : Option UInt64) : List Payment → m Stretch
  | [] => return { failure := none, nextNonce, gasTotal := 0, outcomes := [] }
  | payment :: rest => do
    let unreached := rest.map fun _ => Outcome.pending
    match nextNonce with
    | none => return .stopped (index, .nonceOverflow index) none (.pending :: unreached)
    | some nonce =>
      let request : Transfer :=
        { payer := order.payer, destination := payment.destination, amount := payment.amount,
          nonce, gasPrice }
      match ← (ledger.transfer request).run with
      | .error cause =>
        return .stopped (index, .submissionFailed index cause) (some nonce)
          (.failed nonce none cause :: unreached)
      | .ok sent =>
        match ← (settle ledger order.waits nonce sent).run with
        | .error cause =>
          return .stopped (index, .confirmationFailed index sent.tx cause) (nonceAfter nonce)
            (.failed nonce (some sent.tx) cause :: unreached)
        | .ok (outcome, gas) =>
          let others ← payFrom ledger order gasPrice (index + 1) (nonceAfter nonce) rest
          return .after outcome (gasPrice * gas.toNat) others

def execute (ledger : Ledger m) (order : Order) (plan : Plan) : m Report := do
  match ← (preflight ledger order plan).run with
  | .error cause =>
    return { ending := .abortedPreflight cause, nextNonce := none, gasPrice := none, gasTotal := 0,
             outcomes := plan.payments.map fun _ => .pending }
  | .ok (gasPrice, startNonce) =>
    let stretch ← payFrom ledger order gasPrice 0 (some startNonce) plan.payments
    return { ending := stretch.ending, nextNonce := stretch.nextNonce, gasPrice := some gasPrice,
             gasTotal := stretch.gasTotal, outcomes := stretch.outcomes }

end TokenDesk.Batch
