import TokenDesk.Ledger

/-! What a run of a batch reports: an outcome for each payment, the sequence
state behind the last one, and how the run ended. -/

set_option autoImplicit false

namespace TokenDesk.Batch

inductive Outcome where
  | pending
  | broadcast (nonce : UInt64) (tx : TxId)
  | confirmed (nonce : UInt64) (tx : TxId) (gasUsed : UInt64) (success : Bool)
  | failed (nonce : UInt64) (tx : Option TxId) (cause : LedgerError)
  deriving DecidableEq, Repr

def Outcome.tx? : Outcome → Option TxId
  | pending => none
  | broadcast _ tx => some tx
  | confirmed _ tx _ _ => some tx
  | failed _ tx _ => tx

def Outcome.nonce? : Outcome → Option UInt64
  | pending => none
  | broadcast nonce _ => some nonce
  | confirmed nonce _ _ _ => some nonce
  | failed nonce _ _ => some nonce

inductive Failure where
  | insufficientFunds (balance required : Amount)
  | preflight (cause : LedgerError)
  | submissionFailed (index : Nat) (cause : LedgerError)
  | confirmationFailed (index : Nat) (tx : TxId) (cause : LedgerError)
  | nonceOverflow (index : Nat)
  deriving DecidableEq, Repr

def Failure.message : Failure → String
  | insufficientFunds balance required =>
    "insufficient funds: balance " ++ Amount.decimal balance ++ ", batch needs "
      ++ Amount.decimal required
  | preflight cause => "preflight failed: " ++ cause.message
  | submissionFailed index cause =>
    "submission " ++ toString index ++ " failed: " ++ cause.message
  | confirmationFailed index tx cause =>
    "confirmation of submission " ++ toString index ++ " (" ++ tx.hex ++ ") failed: "
      ++ cause.message
  | nonceOverflow index => "nonce space exhausted at submission " ++ toString index

inductive Ending where
  | completed {gasTotal : Amount} {txIds : List TxId}
  | abortedPreflight (cause : Failure)
  | abortedAt (index : Nat) (cause : Failure)
  deriving DecidableEq, Repr

/-- A run's report. Nonce and gas price are unknown when the preflight failed,
and no nonce is next once the last of 64 bits is used. -/
structure Report where
  ending : Ending
  nextNonce : Option UInt64
  gasPrice : Option Amount
  gasTotal : Amount
  outcomes : List Outcome
  deriving DecidableEq, Repr

namespace Report

def txIds (report : Report) : List TxId :=
  report.outcomes.filterMap Outcome.tx?

def submitted (report : Report) : Nat :=
  report.outcomes.countP fun outcome => outcome.tx?.isSome

theorem submitted_eq (report : Report) : report.submitted = report.txIds.length := by
  rw [submitted, txIds, List.length_filterMap_eq_countP]

def isCompleted (report : Report) : Bool :=
  match report.ending with
  | .completed => true
  | _ => false

theorem isCompleted_iff (report : Report) :
    report.isCompleted ↔ ∃ gasTotal txIds, report.ending = @Ending.completed gasTotal txIds := by
  unfold isCompleted
  cases report.ending <;> simp

/-- The gas cost of a completed run, or why it stopped. -/
def result (report : Report) : Except Failure Amount :=
  match report.ending with
  | @Ending.completed gasTotal _ => .ok gasTotal
  | .abortedPreflight cause => .error cause
  | .abortedAt _ cause => .error cause

end Report

end TokenDesk.Batch
