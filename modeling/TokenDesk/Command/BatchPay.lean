import TokenDesk.Batch.Execution
import TokenDesk.Desk

/-! Paying everyone whom a batch file lists.

A file that makes no plan sends nothing. Once payments are submitted, every one
that reached the node is told of, also when the batch stops early.
-/

set_option autoImplicit false

namespace TokenDesk

structure BatchPayRequest where
  path : String
  gasPrice : Option UInt64
  nonce : Option UInt64
  waits : Bool
  deriving DecidableEq, Repr

namespace Desk

def paymentLine (decimals : Decimals) (payment : Payment) : String :=
  payment.destination.checksummed ++ "," ++ Amount.render decimals payment.amount

def planLines (plan : Plan) (decimals : Decimals) (symbol : String) : List String :=
  plan.warnings.map ZeroAddressWarning.message
    ++ ["Please confirm the transactions below:"]
    ++ plan.payments.map (paymentLine decimals)
    ++ ["Number of transactions: " ++ toString plan.payments.length,
      "Total pay amount: " ++ Amount.render decimals plan.total ++ " " ++ symbol]

def outcomeLines (payer : Address) (decimals : Decimals) (symbol : String) (payment : Payment)
    (outcome : Batch.Outcome) : List String :=
  let told := "pay " ++ Amount.render decimals payment.amount ++ " " ++ symbol ++ " from "
    ++ payer.checksummed ++ " to " ++ payment.destination.checksummed
  let broadcast := fun (nonce : UInt64) (tx : TxId) =>
    "Succeed broadcast " ++ told ++ " with nonce " ++ toString nonce.toNat ++ ", TxID " ++ tx.hex
  match outcome with
  | .pending => []
  | .broadcast nonce tx => [broadcast nonce tx]
  | .confirmed nonce tx _ true => [broadcast nonce tx, "Succeed mined txID " ++ tx.hex]
  | .confirmed nonce tx _ false =>
    [broadcast nonce tx, "Transaction " ++ tx.hex ++ " was mined but failed"]
  | .failed nonce (some tx) cause =>
    [broadcast nonce tx, "Error waiting for " ++ tx.hex ++ ": " ++ cause.message]
  | .failed nonce none cause =>
    ["Failed to " ++ told ++ " with nonce " ++ toString nonce.toNat ++ ": " ++ cause.message]

/-- What is told of the whole batch. The cost of gas means something only at its end. -/
def reportLine (report : Batch.Report) (units : UnitNames) : String :=
  if report.isCompleted then
    "Total Gas is: " ++ NativeUnit.major.renderNamed units report.gasTotal
  else
    "Submitted " ++ toString report.submitted ++ " of " ++ toString report.outcomes.length
      ++ " transactions"

def reportLines (payer : Address) (decimals : Decimals) (symbol : String) (plan : Plan)
    (report : Batch.Report) (units : UnitNames) : List String :=
  (plan.payments.zip report.outcomes).flatMap (fun (payment, outcome) =>
    outcomeLines payer decimals symbol payment outcome) ++ [reportLine report units]

variable {m : Type → Type} [Monad m]

def batchChain (desk : Desk m) : Action m ChainId :=
  if desk.settings.blockchain.hasTaggedAddresses then desk.chainId else pure default

def batchPay (desk : Desk m) (request : BatchPayRequest) : Action m Unit := do
  let token ← liftM desk.token
  let erc20 ← liftM ((token.asFungible "batchpay").mapError Failure.contract)
  let payer ← desk.payer
  let source ← Action.ofHost <| (desk.host.files.readText request.path).adapt fun fault =>
    .during (.readBatchFile request.path) (.file fault)
  let decimals ← Action.ofContract .readDecimals erc20.decimals
  let symbol ← Action.ofContract .readSymbol erc20.contract.symbol
  let chain ← batchChain desk
  let plan ← liftM <| (Plan.ofSource (.on desk.settings.blockchain decimals chain) source).mapError
    fun cause => Failure.during (.parseBatchFile request.path) (.plan cause)
  desk.sayAll (planLines plan decimals symbol)
  desk.unlock payer
  let order : Batch.Order :=
    { payer, gasPrice := request.gasPrice.map UInt64.toNat, startNonce := request.nonce,
      waits := request.waits }
  let report ← (Batch.execute erc20.ledger order plan : Rpc.Requests m Batch.Report)
  desk.sayAll (reportLines payer decimals symbol plan report desk.units)
  let _ ← (liftM (report.result.mapError Failure.batch) : Action m Amount)

end Desk

end TokenDesk
