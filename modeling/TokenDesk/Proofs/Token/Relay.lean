import TokenDesk.Proofs.Batch.Trace
import TokenDesk.Proofs.Contract.Trace
import TokenDesk.Proofs.Digits
import TokenDesk.Proofs.Results
import TokenDesk.Token.Ledger

/-! What a transport hears of the ledger of a token contract.

Each question to the ledger is one question to the transport. A transfer is an
estimate and then, on the terms of the request and with the gas limit that was
just estimated, one transaction. Its data call the contract with two words.
-/

set_option autoImplicit false

namespace TokenDesk

namespace Erc20

def balanceData (owner : Address) : List UInt8 :=
  Abi.selector "balanceOf(address)" ++ Abi.word (Bytes.toNat owner.bytes)

def transferData (destination : Address) (amount : Amount) : List UInt8 :=
  Abi.selector "transfer(address,uint256)" ++ (Abi.word (Bytes.toNat destination.bytes) ++ Abi.word amount)

def estimateOf (contract : Address) (request : Transfer) (answer : Except TransportError UInt64) : TransportEvent :=
  .estimateGas request.payer (some contract) (transferData request.destination request.amount) answer

def transactionOf (contract : Address) (request : Transfer) (gasLimit : UInt64) : Transaction where
  sender := request.payer
  destination := some contract
  data := transferData request.destination request.amount
  nonce := some request.nonce
  gasPrice := request.gasPrice
  gasLimit := gasLimit

def balanceAnswer (answer : Except TransportError (List UInt8)) : Except LedgerError Amount :=
  (Contract.reading Abi.decodeUint answer).mapError ContractError.toLedger

/-- Why a transfer failed whose estimate or transaction failed for this reason. -/
def submissionError (cause : TransportError) : LedgerError :=
  (ContractError.ofSubmission cause).toLedger

def confirmationOf (receipt : Receipt) : Confirmation where
  gasUsed := receipt.gasUsed
  success := receipt.success

/-- What a transport hears of a question to the ledger, with the answer that the ledger gives. -/
inductive Relays (contract : Address) : LedgerEvent → List TransportEvent → Prop where
  | balanceOf (owner : Address) (answer : Except TransportError (List UInt8)) :
      Relays contract (.balanceOf owner (balanceAnswer answer)) [.call contract (balanceData owner) answer]
  | pendingNonce (account : Address) (answer : Except TransportError UInt64) :
      Relays contract (.pendingNonce account (answer.mapError TransportError.toLedger)) [.pendingNonce account answer]
  | chainId (answer : Except TransportError ChainId) :
      Relays contract (.chainId (answer.mapError TransportError.toLedger)) [.networkId answer]
  | suggestGasPrice (answer : Except TransportError Amount) :
      Relays contract (.suggestGasPrice (answer.mapError TransportError.toLedger)) [.gasPrice answer]
  | unencoded {request : Transfer} (large : 2 ^ 256 ≤ request.amount) :
      Relays contract (.transfer request (.error (.invalidResponse Abi.Error.valueTooLarge.message))) []
  | unestimated {request : Transfer} (fits : request.amount < 2 ^ 256) (cause : TransportError) :
      Relays contract (.transfer request (.error (submissionError cause))) [estimateOf contract request (.error cause)]
  | unsent {request : Transfer} (fits : request.amount < 2 ^ 256) (gasLimit : UInt64) (cause : TransportError) :
      Relays contract (.transfer request (.error (submissionError cause)))
        [estimateOf contract request (.ok gasLimit),
          .sendTransaction (transactionOf contract request gasLimit) (.error cause)]
  | sent {request : Transfer} (fits : request.amount < 2 ^ 256) (gasLimit : UInt64) (tx : TxId) :
      Relays contract (.transfer request (.ok { tx, gasLimit }))
        [estimateOf contract request (.ok gasLimit),
          .sendTransaction (transactionOf contract request gasLimit) (.ok tx)]
  | waitConfirmed (tx : TxId) (answer : Except TransportError Receipt) :
      Relays contract (.waitConfirmed tx ((answer.map confirmationOf).mapError TransportError.toLedger))
        [.waitForReceipt tx answer]

namespace Relays

variable {contract : Address} {request : Transfer} {part : List TransportEvent}

theorem of_balanceOf {owner : Address} {answer : Except LedgerError Amount}
    (relays : Relays contract (.balanceOf owner answer) part) :
    ∃ reply, answer = balanceAnswer reply ∧ part = [.call contract (balanceData owner) reply] := by
  cases relays
  exact ⟨_, rfl, rfl⟩

theorem of_pendingNonce {account : Address} {answer : Except LedgerError UInt64}
    (relays : Relays contract (.pendingNonce account answer) part) :
    ∃ reply : Except TransportError UInt64,
      answer = reply.mapError TransportError.toLedger ∧ part = [.pendingNonce account reply] := by
  cases relays
  exact ⟨_, rfl, rfl⟩

theorem of_suggestGasPrice {answer : Except LedgerError Amount}
    (relays : Relays contract (.suggestGasPrice answer) part) :
    ∃ reply : Except TransportError Amount,
      answer = reply.mapError TransportError.toLedger ∧ part = [.gasPrice reply] := by
  cases relays
  exact ⟨_, rfl, rfl⟩

theorem of_waitConfirmed {tx : TxId} {answer : Except LedgerError Confirmation}
    (relays : Relays contract (.waitConfirmed tx answer) part) :
    ∃ reply : Except TransportError Receipt,
      answer = (reply.map confirmationOf).mapError TransportError.toLedger ∧ part = [.waitForReceipt tx reply] := by
  cases relays
  exact ⟨_, rfl, rfl⟩

theorem of_taken {taken : Submitted} (relays : Relays contract (.transfer request (.ok taken)) part) :
    part = [estimateOf contract request (.ok taken.gasLimit),
      .sendTransaction (transactionOf contract request taken.gasLimit) (.ok taken.tx)] := by
  cases relays
  rfl

/-- A transfer that could be encoded is refused by the node, and the transport hears of it. -/
theorem of_refused {cause : LedgerError} (fits : request.amount < 2 ^ 256)
    (relays : Relays contract (.transfer request (.error cause)) part) :
    ∃ reason, cause = submissionError reason ∧ (part = [estimateOf contract request (.error reason)] ∨
      ∃ gasLimit, part = [estimateOf contract request (.ok gasLimit),
        .sendTransaction (transactionOf contract request gasLimit) (.error reason)]) := by
  cases relays with
  | unencoded large => exact absurd fits (Nat.not_lt.mpr large)
  | unestimated _ reason => exact ⟨reason, rfl, .inl rfl⟩
  | unsent _ gasLimit reason => exact ⟨reason, rfl, .inr ⟨gasLimit, rfl⟩⟩

end Relays

theorem dataOf_balance (owner : Address) :
    Contract.dataOf "balanceOf(address)" [.address owner] = .ok (balanceData owner) := by
  simp [Contract.dataOf, Abi.callData, Abi.Argument.fits, Abi.Argument.encode, Abi.Argument.heads,
    Abi.Argument.head, Abi.Argument.tail, balanceData]

theorem dataOf_transfer (destination : Address) {amount : Amount} (fits : amount < 2 ^ 256) :
    Contract.dataOf "transfer(address,uint256)" [.address destination, .uint amount] =
      .ok (transferData destination amount) := by
  have holds : [Abi.Argument.address destination, .uint amount].all Abi.Argument.fits := by
    simpa [Abi.Argument.fits] using fits
  simp [Contract.dataOf, Abi.callData, holds, Abi.Argument.encode, Abi.Argument.heads,
    Abi.Argument.head, Abi.Argument.tail, transferData]

theorem dataOf_transfer_large (destination : Address) {amount : Amount} (large : 2 ^ 256 ≤ amount) :
    Contract.dataOf "transfer(address,uint256)" [.address destination, .uint amount] =
      .error (.abi .valueTooLarge) := by
  have fails : [Abi.Argument.address destination, .uint amount].all Abi.Argument.fits = false := by
    simpa [Abi.Argument.fits] using large
  simp [Contract.dataOf, Abi.callData, fails]

theorem firstWord_lt (output : List UInt8) : Abi.firstWord output < 2 ^ 256 := by
  refine Nat.lt_of_lt_of_le (Bytes.toNat_lt _) ?_
  rw [List.length_take]
  exact (Nat.pow_le_pow_right (by decide) (Nat.min_le_left _ _)).trans (by decide)

theorem lt_of_balanceAnswer {answer : Except TransportError (List UInt8)} {balance : Amount}
    (answered : balanceAnswer answer = .ok balance) : balance < 2 ^ 256 := by
  obtain ⟨output, -, read⟩ := bind_eq_ok_iff.mp (mapError_eq_ok_iff.mp answered)
  obtain ⟨-, -, word⟩ := bind_eq_ok_iff.mp (mapError_eq_ok_iff.mp read)
  cases word
  exact firstWord_lt output

variable {m : Type → Type} [Monad m] [LawfulMonad m] {trace : Trace m TransportEvent} {token : Erc20 m}

def optionsOf (request : Transfer) : SendOptions where
  sender := request.payer
  nonce := some request.nonce
  gasPrice := some request.gasPrice
  gasLimit := none

theorem submission_cases {contract : Address} {request : Transfer} {events : List TransportEvent}
    {result : Except ContractError Sent}
    (made : Submission (optionsOf request) (some contract) (transferData request.destination request.amount)
      events result) :
    (∃ cause, events = [estimateOf contract request (.error cause)] ∧ result = .error (.ofSubmission cause)) ∨
    ∃ gasLimit answer, result = (answer.mapError .ofSubmission).map (fun tx => ⟨tx, request.gasPrice, gasLimit⟩) ∧
      events = [estimateOf contract request (.ok gasLimit),
        .sendTransaction (transactionOf contract request gasLimit) answer] := by
  -- The price is fixed and the limit is open, so each way of sending leaves one form.
  cases made with
  | unpriced price => cases price
  | unlimited price limit =>
    cases price
    cases limit
    exact .inl ⟨_, rfl, rfl⟩
  | sent answer price limit =>
    cases price
    cases limit
    exact .inr ⟨_, answer, rfl, rfl⟩

theorem transfer_heard (heard : token.contract.transport.IsHeard trace) (request : Transfer) :
    trace.Emits (token.ledger.transfer request).run fun events answer =>
      Relays token.contract.address (.transfer request answer) events := by
  rcases Nat.lt_or_ge request.amount (2 ^ 256) with fits | large
  · refine trace.emits_bind_adapt_run
      (Contract.transact_heard token.contract heard (optionsOf request)
        (dataOf_transfer request.destination fits)) ?_ ?_
    · intro events cause made
      rcases submission_cases made with ⟨reason, rfl, ⟨rfl⟩⟩ | ⟨gasLimit, reason | tx, ⟨rfl⟩, rfl⟩
      · exact .unestimated fits reason
      · exact .unsent fits gasLimit reason
    · intro events sent made
      rcases submission_cases made with ⟨reason, -, ⟨⟩⟩ | ⟨gasLimit, reason | tx, ⟨rfl⟩, rfl⟩
      exact trace.emits_pure_run (.sent fits gasLimit tx)
  -- An amount beyond a word is refused by the encoder, before anything is asked.
  · have refused : trace.Emits (token.transfer (optionsOf request) request.destination request.amount).run
        fun events result => events = [] ∧ result = .error (.abi .valueTooLarge) := by
      rw [Erc20.transfer, Contract.transact, dataOf_transfer_large _ large, bind_liftM_error]
      exact trace.emits_throw_run ⟨rfl, rfl⟩
    refine trace.emits_bind_adapt_run refused ?_ ?_
    · rintro _ cause ⟨rfl, same⟩
      cases same
      exact .unencoded large
    · intro events sent made
      cases made.2

theorem ledger_heard (token : Erc20 m) (heard : token.contract.transport.IsHeard trace) :
    token.ledger.IsHeard (trace.through (Relays token.contract.address)) where
  -- Each call of the ledger is one of the transport, whose failure it translates.
  balanceOf owner := by
    refine Trace.through_single (trace.emits_adapt_run ?_)
    refine trace.emits_mono (Contract.ask_heard token.contract heard (dataOf_balance owner) Abi.decodeUint) ?_
    rintro _ _ ⟨answer, rfl, rfl⟩
    exact .balanceOf owner answer
  pendingNonce account := by
    refine Trace.through_single (trace.emits_adapt_run (trace.emits_mono (heard.pendingNonce account) ?_))
    rintro _ answer rfl
    exact .pendingNonce account answer
  chainId := by
    refine Trace.through_single (trace.emits_adapt_run (trace.emits_mono heard.networkId ?_))
    rintro _ answer rfl
    exact .chainId answer
  suggestGasPrice := by
    refine Trace.through_single (trace.emits_adapt_run (trace.emits_mono heard.gasPrice ?_))
    rintro _ answer rfl
    exact .suggestGasPrice answer
  transfer request := Trace.through_single (transfer_heard heard request)
  waitConfirmed tx := by
    refine Trace.through_single (trace.emits_bind_adapt_run (heard.waitForReceipt tx) ?_ ?_)
    · rintro _ cause rfl
      exact .waitConfirmed tx (.error cause)
    · rintro _ receipt rfl
      exact trace.emits_pure_run (.waitConfirmed tx (.ok receipt))

end Erc20

end TokenDesk
