import TokenDesk.Proofs.Batch.Calls
import TokenDesk.Proofs.Batch.Entries
import TokenDesk.Proofs.Token.Relay

/-! What a transport hears of a batch.

A run asks for transfers one after another; the transport hears of each an
estimate and at most one transaction. Amounts always fit into the word of a call:
none exceeds the balance that covers them all, and that came out of one word.
-/

set_option autoImplicit false

namespace TokenDesk

namespace TransportEvent

def isGasPrice : TransportEvent → Bool
  | gasPrice _ => true
  | _ => false

def transaction? : TransportEvent → Option Transaction
  | sendTransaction transaction _ => some transaction
  | _ => none

end TransportEvent

namespace Batch

open Erc20 (Relays estimateOf transactionOf)

/-- What a transport hears of the transfers that a run asks for: of each an estimate, then one
transaction unless there is no estimate, and then a wait if the run waits. Nothing follows a failure. -/
inductive Heard (contract : Address) : (waits : Bool) → List Transfer → List TransportEvent → Prop where
  | done {waits : Bool} : Heard contract waits [] []
  | unestimated {waits : Bool} (request : Transfer) (cause : TransportError) :
      Heard contract waits [request] [estimateOf contract request (.error cause)]
  | unsent {waits : Bool} (request : Transfer) (gasLimit : UInt64) (cause : TransportError) :
      Heard contract waits [request] [estimateOf contract request (.ok gasLimit),
        .sendTransaction (transactionOf contract request gasLimit) (.error cause)]
  | unconfirmed (request : Transfer) (gasLimit : UInt64) (tx : TxId) (cause : TransportError) :
      Heard contract true [request] [estimateOf contract request (.ok gasLimit),
        .sendTransaction (transactionOf contract request gasLimit) (.ok tx), .waitForReceipt tx (.error cause)]
  | broadcast {requests : List Transfer} {heard : List TransportEvent} (request : Transfer) (gasLimit : UInt64)
      (tx : TxId) : Heard contract false requests heard →
        Heard contract false (request :: requests) (estimateOf contract request (.ok gasLimit) ::
          .sendTransaction (transactionOf contract request gasLimit) (.ok tx) :: heard)
  | confirmed {requests : List Transfer} {heard : List TransportEvent} (request : Transfer) (gasLimit : UInt64)
      (tx : TxId) (receipt : Receipt) : Heard contract true requests heard →
        Heard contract true (request :: requests) (estimateOf contract request (.ok gasLimit) ::
          .sendTransaction (transactionOf contract request gasLimit) (.ok tx) ::
            .waitForReceipt tx (.ok receipt) :: heard)

variable {contract : Address} {waits : Bool} {next : Option UInt64} {payments : List Payment}

/-- Transactions are sent in the order of the requests, each directly after its own estimate. -/
theorem Heard.sent {requests : List Transfer} {heard : List TransportEvent}
    (hears : Heard contract waits requests heard) {index : Nat} {transaction : Transaction}
    (here : (heard.filterMap TransportEvent.transaction?)[index]? = some transaction) :
    ∃ request gasLimit answer before after, requests[index]? = some request ∧
      transaction = transactionOf contract request gasLimit ∧
      heard = before ++ estimateOf contract request (.ok gasLimit) :: .sendTransaction transaction answer :: after := by
  -- Each constructor has one transaction of its own; the later ones lie in what is heard behind it.
  induction hears generalizing index with
  | done => cases here
  | unestimated request cause => cases here
  | unsent request gasLimit cause =>
    cases index with
    | zero =>
      cases here
      exact ⟨request, gasLimit, _, [], [], rfl, rfl, rfl⟩
    | succ index => cases here
  | unconfirmed request gasLimit tx cause =>
    cases index with
    | zero =>
      cases here
      exact ⟨request, gasLimit, _, [], _, rfl, rfl, rfl⟩
    | succ index => cases here
  | broadcast request gasLimit tx _ ih =>
    cases index with
    | zero =>
      cases here
      exact ⟨request, gasLimit, _, [], _, rfl, rfl, rfl⟩
    | succ index =>
      obtain ⟨later, limit, answer, before, after, listed, same, rfl⟩ := ih here
      exact ⟨later, limit, answer, _ :: _ :: before, after, listed, same, rfl⟩
  | confirmed request gasLimit tx receipt _ ih =>
    cases index with
    | zero =>
      cases here
      exact ⟨request, gasLimit, _, [], _, rfl, rfl, rfl⟩
    | succ index =>
      obtain ⟨later, limit, answer, before, after, listed, same, rfl⟩ := ih here
      exact ⟨later, limit, answer, _ :: _ :: _ :: before, after, listed, same, rfl⟩

theorem Course.heard (order : Order) (gasPrice : Amount) (taken : Course waits next payments)
    (fits : ∀ payment ∈ payments, payment.amount < 2 ^ 256) {heard : List TransportEvent}
    (told : Told (Relays contract) (taken.calls order gasPrice) heard) :
    Heard contract waits (requests (taken.calls order gasPrice)) heard := by
  induction taken generalizing heard with
  | finished =>
    cases told
    exact .done
  | exhausted =>
    cases told
    exact .done
  | @halted nonce payment rest halt =>
    have amount := fits payment List.mem_cons_self
    cases halt with
    | refused cause =>
      obtain ⟨part, _, rfl, transfer, ⟨⟩⟩ := told.of_cons
      -- The amount fits a word, so it is the transport that refused.
      obtain ⟨reason, -, rfl | ⟨gasLimit, rfl⟩⟩ := transfer.of_refused amount
      · exact .unestimated _ reason
      · exact .unsent _ gasLimit reason
    | unconfirmed sent cause =>
      obtain ⟨_, _, rfl, transfer, others⟩ := told.of_cons
      obtain ⟨_, _, rfl, wait, ⟨⟩⟩ := others.of_cons
      obtain rfl := transfer.of_taken
      obtain ⟨reason | receipt, ⟨rfl⟩, rfl⟩ := wait.of_waitConfirmed
      exact .unconfirmed _ sent.gasLimit sent.tx reason
  | @settled nonce payment rest first others ih =>
    have fits_later : ∀ later ∈ rest, later.amount < 2 ^ 256 := fun later listed =>
      fits later (List.mem_cons_of_mem _ listed)
    cases first with
    | broadcast sent =>
      obtain ⟨_, _, rfl, transfer, later⟩ := told.of_cons
      obtain rfl := transfer.of_taken
      exact .broadcast _ sent.gasLimit sent.tx (ih fits_later later)
    | confirmed sent confirmation =>
      obtain ⟨_, _, rfl, transfer, later⟩ := told.of_cons
      obtain ⟨_, _, rfl, wait, last⟩ := later.of_cons
      obtain rfl := transfer.of_taken
      obtain ⟨reason | receipt, ⟨rfl⟩, rfl⟩ := wait.of_waitConfirmed
      exact .confirmed _ sent.gasLimit sent.tx receipt (ih fits_later last)

section
variable {α : Type} {fixed : Option α} {event : Except LedgerError α → LedgerEvent}
  {reply : Except TransportError α → TransportEvent} {log : List TransportEvent}

theorem Term.heard_eq (had : Term fixed)
    (relays : ∀ answer part, Relays contract (event answer) part →
      ∃ value, answer = value.mapError TransportError.toLedger ∧ part = [reply value])
    (told : Told (Relays contract) (had.calls event) log) :
    log = if fixed.isNone then [reply (.ok had.value)] else [] := by
  cases had with
  | fixed value =>
    cases told
    rfl
  | answered value =>
    obtain ⟨part, _, rfl, stands, ⟨⟩⟩ := told.of_cons
    obtain ⟨cause | same, ⟨rfl⟩, rfl⟩ := relays _ _ stands
    rfl

theorem Unanswered.heard_eq (missing : Unanswered fixed)
    (relays : ∀ answer part, Relays contract (event answer) part →
      ∃ value, answer = value.mapError TransportError.toLedger ∧ part = [reply value])
    (told : Told (Relays contract) (missing.calls event) log) :
    ∃ cause, log = [reply (.error cause)] := by
  rw [missing.calls_eq] at told
  obtain ⟨part, _, rfl, stands, ⟨⟩⟩ := told.of_cons
  obtain ⟨cause | same, same_answer, rfl⟩ := relays _ _ stands
  · exact ⟨cause, rfl⟩
  · cases same_answer

end

/-- What a transport hears of the questions for the terms that the order leaves open. -/
def heardQuestions (order : Order) (price : Except TransportError Amount) (start : Except TransportError UInt64) :
    List TransportEvent :=
  (if order.gasPrice.isNone then [.gasPrice price] else []) ++
    if order.startNonce.isNone && price.isOk then [.pendingNonce order.payer start] else []

def attempted (report : Report) : Nat :=
  report.outcomes.countP fun outcome => outcome ≠ .pending

/-- The answer to the question for the balance is a word that covers the plan. -/
def IsCovered (plan : Plan) (funds : Except TransportError (List UInt8)) : Prop :=
  ∃ balance, Erc20.balanceAnswer funds = .ok balance ∧ plan.total ≤ balance

/-- What a transport hears of a run: the question for the balance, those for open terms, and the payments.
Without a balance that covers the plan it hears of nothing more, and with one every payment can be encoded. -/
structure Submits (contract : Address) (order : Order) (plan : Plan) (report : Report)
    (log : List TransportEvent) (funds : Except TransportError (List UInt8)) (asked paid : List TransportEvent)
    (requests : List Transfer) : Prop where
  log_eq : log = .call contract (Erc20.balanceData order.payer) funds :: (asked ++ paid)
  heard : Heard contract order.waits requests paid
  length_requests : requests.length = attempted report
  uncovered : (¬ ∃ balance, Erc20.balanceAnswer funds = .ok balance ∧ plan.total ≤ balance) →
    asked = [] ∧ paid = [] ∧ requests = []
  encodes : IsCovered plan funds →
    ∀ payment ∈ plan.payments, payment.amount < 2 ^ 256 ∧
      Contract.dataOf "transfer(address,uint256)" [.address payment.destination, .uint payment.amount] =
        .ok (Erc20.transferData payment.destination payment.amount)
  covered : IsCovered plan funds →
    ∃ (price : Except TransportError Amount) (start : Except TransportError UInt64),
      (∀ fixed, order.gasPrice = some fixed → price = .ok fixed) ∧
      (∀ fixed, order.startNonce = some fixed → start = .ok fixed) ∧
      asked = heardQuestions order price start ∧
      (∀ gasPrice nonce, price = .ok gasPrice → start = .ok nonce → ∀ index request,
        requests[index]? = some request → IsRequest order gasPrice nonce.toNat plan.payments index request) ∧
      ((¬ ∃ gasPrice nonce, price = .ok gasPrice ∧ start = .ok nonce) → requests = [])
  price_once : log.countP TransportEvent.isGasPrice ≤ if order.gasPrice.isNone then 1 else 0
  sent : ∀ (index : Nat) (transaction : Transaction),
    (log.filterMap TransportEvent.transaction?)[index]? = some transaction →
    ∃ (request : Transfer) (gasLimit : UInt64) (answer : Except TransportError TxId)
      (before after : List TransportEvent), requests[index]? = some request ∧
      transaction = transactionOf contract request gasLimit ∧
      log = before ++ estimateOf contract request (.ok gasLimit) :: .sendTransaction transaction answer :: after

variable {order : Order} {plan : Plan}

theorem Payment.amount_le_total {payment : Payment} (listed : payment ∈ payments) :
    payment.amount ≤ Payment.total payments := by
  obtain ⟨before, after, rfl⟩ := List.append_of_mem listed
  rw [Payment.total_append, Payment.total_cons]
  exact (Nat.le_add_right _ _).trans (Nat.le_add_left _ _)

theorem IsCovered.fits {funds : Except TransportError (List UInt8)} (covered : IsCovered plan funds)
    {payment : Payment} (listed : payment ∈ plan.payments) : payment.amount < 2 ^ 256 := by
  obtain ⟨balance, answer, enough⟩ := covered
  calc payment.amount
    _ ≤ plan.total := Payment.amount_le_total listed
    _ ≤ balance := enough
    _ < 2 ^ 256 := Erc20.lt_of_balanceAnswer answer

theorem filterMap_heardQuestions (order : Order) (price : Except TransportError Amount)
    (start : Except TransportError UInt64) :
    (heardQuestions order price start).filterMap TransportEvent.transaction? = [] := by
  unfold heardQuestions
  split <;> split <;> rfl

theorem countP_heardQuestions (order : Order) (price : Except TransportError Amount)
    (start : Except TransportError UInt64) :
    (heardQuestions order price start).countP TransportEvent.isGasPrice = if order.gasPrice.isNone then 1 else 0 := by
  unfold heardQuestions
  split <;> split <;> rfl

theorem Heard.countP_isGasPrice {requests : List Transfer} {heard : List TransportEvent}
    (hears : Heard contract waits requests heard) : heard.countP TransportEvent.isGasPrice = 0 := by
  induction hears with
  | done => rfl
  | unestimated _ _ => rfl
  | unsent _ _ _ => rfl
  | unconfirmed _ _ _ _ => rfl
  | broadcast _ _ _ _ ih => exact ih
  | confirmed _ _ _ _ _ ih => exact ih

/-- How questions and payments are arranged decides the rest of what a transport hears. -/
theorem submits_of_parts {report : Report} {log : List TransportEvent} {funds : Except TransportError (List UInt8)}
    {asked paid : List TransportEvent} {requests : List Transfer}
    (log_eq : log = .call contract (Erc20.balanceData order.payer) funds :: (asked ++ paid))
    (heard : Heard contract order.waits requests paid) (length_requests : requests.length = attempted report)
    (uncovered : ¬ IsCovered plan funds → asked = [] ∧ paid = [] ∧ requests = [])
    (covered : IsCovered plan funds → ∃ (price : Except TransportError Amount) (start : Except TransportError UInt64),
      (∀ fixed, order.gasPrice = some fixed → price = .ok fixed) ∧
      (∀ fixed, order.startNonce = some fixed → start = .ok fixed) ∧
      asked = heardQuestions order price start ∧
      (∀ gasPrice nonce, price = .ok gasPrice → start = .ok nonce → ∀ index request,
        requests[index]? = some request → IsRequest order gasPrice nonce.toNat plan.payments index request) ∧
      ((¬ ∃ gasPrice nonce, price = .ok gasPrice ∧ start = .ok nonce) → requests = [])) :
    Submits contract order plan report log funds asked paid requests := by
  -- The questions send nothing, and ask for the price once at most.
  have quiet : asked.filterMap TransportEvent.transaction? = [] ∧
      asked.countP TransportEvent.isGasPrice ≤ if order.gasPrice.isNone then 1 else 0 := by
    by_cases enough : IsCovered plan funds
    · obtain ⟨price, start, -, -, rfl, -⟩ := covered enough
      exact ⟨filterMap_heardQuestions order price start, (countP_heardQuestions order price start).le⟩
    · obtain ⟨rfl, -⟩ := uncovered enough
      exact ⟨rfl, Nat.zero_le _⟩
  exact {
    log_eq := log_eq
    heard := heard
    length_requests := length_requests
    uncovered := uncovered
    encodes := fun enough payment listed =>
      ⟨enough.fits listed, Erc20.dataOf_transfer payment.destination (enough.fits listed)⟩
    covered := covered
    price_once := by
      rw [log_eq, List.countP_cons_of_neg (by simp [TransportEvent.isGasPrice]), List.countP_append,
        heard.countP_isGasPrice]
      exact quiet.2
    sent := by
      intro index transaction here
      rw [log_eq, List.filterMap_cons_none rfl, List.filterMap_append, quiet.1, List.nil_append] at here
      obtain ⟨request, gasLimit, answer, before, after, listed, same, parts⟩ := heard.sent here
      refine ⟨request, gasLimit, answer, .call contract (Erc20.balanceData order.payer) funds :: (asked ++ before),
        after, listed, same, ?_⟩
      rw [log_eq, parts, List.cons_append, List.append_assoc] }

theorem Course.attempted (order : Order) (gasPrice : Amount) (index : Nat) (taken : Course waits next payments) :
    ((taken.stretch gasPrice index).outcomes.countP fun outcome => outcome ≠ .pending) =
      (requests (taken.calls order gasPrice)).length := by
  induction taken generalizing index with
  | finished => rfl
  | exhausted => simp [stretch, Stretch.stopped, calls, requests]
  | @halted nonce payment rest halt =>
    rw [calls, Halt.requests_calls, stretch, Stretch.stopped, List.countP_cons_of_pos]
    · simp
    · cases halt <;> rfl
  | settled first others ih =>
    rw [calls, requests_append, Settlement.requests_calls, stretch, Stretch.after, List.countP_cons_of_pos, ih]
    · rfl
    · cases first <;> rfl

theorem attempted_withoutPayments (plan : Plan) (cause : Failure) : attempted (.withoutPayments plan cause) = 0 := by
  simp [attempted, Report.withoutPayments]

section
variable {balance : Amount} {reply : Except TransportError (List UInt8)} {heard : List TransportEvent}

theorem submits_uncovered (cause : Failure) (uncovered : ¬ IsCovered plan reply) :
    Submits contract order plan (.withoutPayments plan cause) [.call contract (Erc20.balanceData order.payer) reply]
      reply [] [] [] :=
  submits_of_parts (by simp) .done (attempted_withoutPayments plan cause).symm (fun _ => ⟨rfl, rfl, rfl⟩)
    fun covered => absurd covered uncovered

theorem submits_unpriced (cause : Failure) (covered : IsCovered plan reply) (price : Unanswered order.gasPrice)
    (told : Told (Relays contract) (price.calls .suggestGasPrice) heard) :
    Submits contract order plan (.withoutPayments plan cause)
      (.call contract (Erc20.balanceData order.payer) reply :: heard) reply heard [] [] := by
  obtain ⟨reason, rfl⟩ := price.heard_eq (fun _ _ => Relays.of_suggestGasPrice) told
  refine submits_of_parts (by simp) .done (attempted_withoutPayments plan cause).symm
    (fun uncovered => absurd covered uncovered) fun _ => ?_
  -- No nonce was asked for; unless one is fixed, any failure stands for the answer that never came.
  refine ⟨.error reason, (order.startNonce.map .ok).getD (.error reason), ?_, ?_, ?_, ?_, fun _ => rfl⟩
  · simp [price.eq_none]
  · intro fixed same
    simp [same]
  · simp [heardQuestions, price.eq_none, Except.isOk, Except.toBool]
  · rintro _ _ ⟨⟩

theorem submits_unnumbered (cause : Failure) (covered : IsCovered plan reply) (price : Term order.gasPrice)
    (start : Unanswered order.startNonce)
    (told : Told (Relays contract) (price.calls .suggestGasPrice ++ start.calls (.pendingNonce order.payer)) heard) :
    Submits contract order plan (.withoutPayments plan cause)
      (.call contract (Erc20.balanceData order.payer) reply :: heard) reply heard [] [] := by
  obtain ⟨_, _, rfl, told_price, told_start⟩ := told.of_append
  obtain rfl := price.heard_eq (fun _ _ => Relays.of_suggestGasPrice) told_price
  obtain ⟨reason, rfl⟩ := start.heard_eq (fun _ _ => Relays.of_pendingNonce) told_start
  refine submits_of_parts (congrArg (List.cons _) (List.append_nil _).symm) .done
    (attempted_withoutPayments plan cause).symm (fun uncovered => absurd covered uncovered) fun _ => ?_
  refine ⟨.ok price.value, .error reason, ?_, ?_, ?_, ?_, fun _ => rfl⟩
  · exact fun fixed same => congrArg _ (price.value_of_fixed same)
  · simp [start.eq_none]
  · simp [heardQuestions, start.eq_none, Except.isOk, Except.toBool]
  · rintro _ _ _ ⟨⟩

theorem submits_sequenced (covered : plan.total ≤ balance) (answer : .ok balance = Erc20.balanceAnswer reply)
    (price : Term order.gasPrice) (start : Term order.startNonce)
    (taken : Course order.waits (some start.value) plan.payments)
    (told : Told (Relays contract) ((price.calls .suggestGasPrice ++ start.calls (.pendingNonce order.payer)) ++
      taken.calls order price.value) heard) :
    ∃ asked paid, Submits contract order plan (Run.sequenced balance covered price start taken).report
      (.call contract (Erc20.balanceData order.payer) reply :: heard) reply asked paid
      (requests (taken.calls order price.value)) := by
  obtain ⟨_, paid, rfl, told_questions, told_paid⟩ := told.of_append
  obtain ⟨_, _, rfl, told_price, told_start⟩ := told_questions.of_append
  obtain rfl := price.heard_eq (fun _ _ => Relays.of_suggestGasPrice) told_price
  obtain rfl := start.heard_eq (fun _ _ => Relays.of_pendingNonce) told_start
  have enough : IsCovered plan reply := ⟨balance, answer.symm, covered⟩
  have heard := taken.heard order price.value (fun _ listed => enough.fits listed) told_paid
  refine ⟨_, paid, submits_of_parts rfl heard (taken.attempted order price.value 0).symm
    (fun uncovered => absurd enough uncovered) fun _ => ?_⟩
  refine ⟨.ok price.value, .ok start.value, ?_, ?_, ?_, ?_, ?_⟩
  · exact fun fixed same => congrArg _ (price.value_of_fixed same)
  · exact fun fixed same => congrArg _ (start.value_of_fixed same)
  · simp [heardQuestions, Except.isOk, Except.toBool]
  · rintro gasPrice nonce ⟨rfl⟩ ⟨rfl⟩ index request here
    exact taken.requests_numbered order price.value (nonceAt_toNat start.value).symm here
  · exact fun failed => absurd ⟨_, _, rfl, rfl⟩ failed

end

theorem submits_of_told (made : Run order plan) {log : List TransportEvent}
    (told : Told (Relays contract) made.calls log) :
    ∃ funds asked paid requests, Submits contract order plan made.report log funds asked paid requests := by
  -- In each case the question for the balance is split off, and its answer decides about the rest.
  cases made with
  | unknownFunds cause =>
    obtain ⟨_, _, rfl, funds, ⟨⟩⟩ := told.of_cons
    obtain ⟨reply, answer, rfl⟩ := funds.of_balanceOf
    refine ⟨reply, [], [], [], submits_uncovered _ ?_⟩
    rintro ⟨balance, known, -⟩
    cases answer.trans known
  | shortFunds balance short =>
    obtain ⟨_, _, rfl, funds, ⟨⟩⟩ := told.of_cons
    obtain ⟨reply, answer, rfl⟩ := funds.of_balanceOf
    refine ⟨reply, [], [], [], submits_uncovered _ ?_⟩
    rintro ⟨known, same, enough⟩
    cases answer.trans same
    exact absurd enough (Nat.not_le.mpr short)
  | unpriced balance covered price =>
    obtain ⟨_, heard, rfl, funds, questions⟩ := told.of_cons
    obtain ⟨reply, answer, rfl⟩ := funds.of_balanceOf
    exact ⟨reply, heard, [], [], submits_unpriced _ ⟨balance, answer.symm, covered⟩ price questions⟩
  | unnumbered balance covered price start =>
    obtain ⟨_, heard, rfl, funds, questions⟩ := told.of_cons
    obtain ⟨reply, answer, rfl⟩ := funds.of_balanceOf
    exact ⟨reply, heard, [], [], submits_unnumbered _ ⟨balance, answer.symm, covered⟩ price start questions⟩
  | sequenced balance covered price start taken =>
    obtain ⟨_, _, rfl, funds, others⟩ := told.of_cons
    obtain ⟨reply, answer, rfl⟩ := funds.of_balanceOf
    obtain ⟨asked, paid, submits⟩ := submits_sequenced covered answer price start taken others
    exact ⟨reply, asked, paid, _, submits⟩

variable {σ : Type}

/-- Whatever the transport answers, this is what it hears of a batch. -/
theorem execute_submits (transport : Transport (StateM σ)) (contract : Address) (order : Order) (plan : Plan)
    (state : σ) :
    ∃ report log after,
      ((execute (Erc20.ledger ⟨⟨contract, transport.recorded⟩⟩) order plan).run []).run state =
        ((report, log), after) ∧
      ∃ funds asked paid requests, Submits contract order plan report log funds asked paid requests := by
  have heard := Erc20.ledger_heard ⟨⟨contract, transport.recorded⟩⟩ transport.recorded_heard
  obtain ⟨log, report, after, ran, calls, told, made, rfl, rfl⟩ := execute_heard heard order plan [] state
  exact ⟨made.report, log, after, ran, submits_of_told made told⟩

end Batch

end TokenDesk
