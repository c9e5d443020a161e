import TokenDesk.Proofs.Batch.Reconciliation
import TokenDesk.Proofs.Batch.Submission
import TokenDesk.Proofs.Rpc.Receipt

/-! The payments that a node takes.

A payment is taken when the reply to its transaction carries an id. What the web
sees of the payments of a batch are the requests for those that are taken, in the
order of the plan, and at most one that is not.
-/

set_option autoImplicit false

namespace TokenDesk

open Rpc (Awaits Call sendCall)

/-- The id of the transaction that the node took, if the request sends one and the reply has a valid id. -/
def Rpc.Call.txId? (call : Call) : Option TxId :=
  if call.isSend then (Rpc.textOf "eth_sendTransaction" Rpc.readTxId call.reply).toOption else none

namespace Batch

open Erc20 (Relays estimateOf transactionOf transferData)

/-- A payment that the node took: the replies to its requests, and the receipt if it is waited for. -/
structure Broadcast where
  payment : Payment
  nonce : UInt64
  gasLimit : UInt64
  estimateReply : Except String HttpReply
  reply : Except String HttpReply
  tx : TxId
  polls : List Call
  receipt : Option (Except TransportError Receipt)

def estimateCall (contract : Address) (request : Transfer) (reply : Except String HttpReply) : Call where
  method := "eth_estimateGas"
  params := [Rpc.estimateJson request.payer (some contract) (transferData request.destination request.amount)]
  reply := reply

namespace Broadcast

variable (contract : Address) (order : Order) (gasPrice : Amount) (broadcast : Broadcast)

def request : Transfer :=
  order.request gasPrice broadcast.nonce broadcast.payment

def calls : List Call :=
  estimateCall contract (broadcast.request order gasPrice) broadcast.estimateReply ::
    sendCall (transactionOf contract (broadcast.request order gasPrice) broadcast.gasLimit) broadcast.reply ::
      broadcast.polls

def outcome : Outcome :=
  match broadcast.receipt with
  | none => .broadcast broadcast.nonce broadcast.tx
  | some (.ok receipt) => .confirmed broadcast.nonce broadcast.tx receipt.gasUsed receipt.success
  | some (.error cause) => .failed broadcast.nonce (some broadcast.tx) cause.toLedger

/-- Nothing is missing: the receipt was obtained if it is waited for. -/
def IsSettled : Prop :=
  ∀ answer, broadcast.receipt = some answer → ∃ receipt, answer = .ok receipt

/-- The replies are those of a payment that was taken, in a run that waits or does not. -/
structure IsTaken (waits : Bool) : Prop where
  estimated : Rpc.textOf "eth_estimateGas" Rpc.parseWord broadcast.estimateReply = .ok broadcast.gasLimit
  accepted : Rpc.textOf "eth_sendTransaction" Rpc.readTxId broadcast.reply = .ok broadcast.tx
  unawaited : waits = false → broadcast.polls = [] ∧ broadcast.receipt = none
  awaited : waits = true → ∃ answer, broadcast.receipt = some answer ∧ Awaits broadcast.tx broadcast.polls answer

end Broadcast

/-- How payments show on the web: those that are taken come first, and nothing is taken after them. -/
structure Shows (contract : Address) (order : Order) (gasPrice : Amount) (waits : Bool) (payments : List Payment)
    (outcomes : List Outcome) (calls : List Call) (broadcasts : List Broadcast) : Prop where
  payments_eq : broadcasts.map Broadcast.payment = payments.take broadcasts.length
  taken : ∀ broadcast ∈ broadcasts, broadcast.IsTaken waits
  calls_eq : ∃ others, calls = broadcasts.flatMap (Broadcast.calls contract order gasPrice) ++ others ∧
    ∀ call ∈ others, call.txId? = none
  outcomes_eq : ∃ others, outcomes = broadcasts.map Broadcast.outcome ++ others ∧
    ∀ outcome ∈ others, outcome.tx? = none

variable {contract : Address} {order : Order} {gasPrice : Amount} {waits : Bool} {next : Option UInt64}
  {payments : List Payment}

section
variable {url : String} {request : Transfer} {events : List TransportEvent} {log : List HostEvent}

theorem calls_of_taken {gasLimit : UInt64} {tx : TxId}
    (wired : Told (Rpc.Wire url) [estimateOf contract request (.ok gasLimit),
      .sendTransaction (transactionOf contract request gasLimit) (.ok tx)] log) :
    ∃ estimateReply reply, Rpc.textOf "eth_estimateGas" Rpc.parseWord estimateReply = .ok gasLimit ∧
      Rpc.textOf "eth_sendTransaction" Rpc.readTxId reply = .ok tx ∧
      Rpc.calls log =
        [estimateCall contract request estimateReply, sendCall (transactionOf contract request gasLimit) reply] := by
  obtain ⟨first, _, rfl, ⟨estimateReply, estimated, asks⟩, others⟩ := wired.of_cons
  obtain ⟨second, _, rfl, ⟨reply, accepted, sends⟩, ⟨⟩⟩ := others.of_cons
  refine ⟨estimateReply, reply, estimated.symm, accepted.symm, ?_⟩
  rw [Rpc.calls_append, List.append_nil, asks.calls_eq, sends.calls_eq]
  rfl

theorem exists_broadcast {nonce : UInt64} {payment : Payment} {gasLimit : UInt64} {tx : TxId}
    (receipt : Option (Except TransportError Receipt))
    (wired : Told (Rpc.Wire url) ([estimateOf contract (order.request gasPrice nonce payment) (.ok gasLimit),
      .sendTransaction (transactionOf contract (order.request gasPrice nonce payment) gasLimit) (.ok tx)]
        ++ (receipt.map (TransportEvent.waitForReceipt tx)).toList) log) :
    ∃ broadcast : Broadcast, broadcast.payment = payment ∧ broadcast.nonce = nonce ∧ broadcast.tx = tx ∧
      broadcast.receipt = receipt ∧ broadcast.IsTaken receipt.isSome ∧
      Rpc.calls log = broadcast.calls contract order gasPrice := by
  obtain ⟨first, second, rfl, sends, waits⟩ := wired.of_append
  obtain ⟨estimateReply, reply, estimated, accepted, calls_eq⟩ := calls_of_taken sends
  cases receipt with
  | none =>
    cases waits
    refine ⟨⟨payment, nonce, gasLimit, estimateReply, reply, tx, [], none⟩, rfl, rfl, rfl, rfl, ?_, ?_⟩
    · exact ⟨estimated, accepted, fun _ => ⟨rfl, rfl⟩, nofun⟩
    · rw [List.append_nil, calls_eq]
      rfl
  | some answer =>
    obtain ⟨part, _, rfl, polls, ⟨⟩⟩ := waits.of_cons
    refine ⟨⟨payment, nonce, gasLimit, estimateReply, reply, tx, Rpc.calls part, some answer⟩,
      rfl, rfl, rfl, rfl, ?_, ?_⟩
    · exact ⟨estimated, accepted, nofun, fun _ => ⟨answer, rfl, Rpc.Polls.awaits polls⟩⟩
    · rw [List.append_nil, Rpc.calls_append, calls_eq]
      rfl

theorem txId?_of_refused {cause : LedgerError} (fits : request.amount < 2 ^ 256)
    (relays : Relays contract (.transfer request (.error cause)) events) (wired : Told (Rpc.Wire url) events log) :
    ∀ call ∈ Rpc.calls log, call.txId? = none := by
  obtain ⟨reason, -, rfl | ⟨gasLimit, rfl⟩⟩ := relays.of_refused fits
  · obtain ⟨first, _, rfl, ⟨reply, -, asks⟩, ⟨⟩⟩ := wired.of_cons
    intro call listed
    rw [List.append_nil, asks.calls_eq, List.mem_singleton] at listed
    rw [listed]
    rfl
  · obtain ⟨first, _, rfl, ⟨estimateReply, -, asks⟩, others⟩ := wired.of_cons
    obtain ⟨second, _, rfl, ⟨reply, refused, sends⟩, ⟨⟩⟩ := others.of_cons
    intro call listed
    rw [Rpc.calls_append, List.append_nil, asks.calls_eq, sends.calls_eq] at listed
    rcases List.mem_cons.mp listed with rfl | last
    · rfl
    · rw [List.mem_singleton.mp last]
      simp [Call.txId?, Call.isSend, ← refused, Except.toOption]

end

namespace Broadcast.IsTaken

variable {broadcast : Broadcast}

theorem txIds (taken : broadcast.IsTaken waits) :
    (broadcast.calls contract order gasPrice).filterMap Call.txId? = [broadcast.tx] := by
  have polled : broadcast.polls.filterMap Call.txId? = [] := by
    refine List.filterMap_eq_nil_iff.mpr fun call listed => ?_
    cases waits with
    | false =>
      rw [(taken.unawaited rfl).1] at listed
      cases listed
    | true =>
      obtain ⟨answer, -, awaits⟩ := taken.awaited rfl
      simp [Call.txId?, Call.isSend, (awaits.asks call listed).1, Rpc.receiptMethod]
  have sent : Call.txId? (sendCall (transactionOf contract (broadcast.request order gasPrice) broadcast.gasLimit)
      broadcast.reply) = some broadcast.tx := by
    simp [Call.txId?, sendCall, Call.isSend, taken.accepted, Except.toOption]
  rw [calls, List.filterMap_cons_none rfl, List.filterMap_cons_some sent, polled]

theorem isSettled_iff (taken : broadcast.IsTaken waits) :
    broadcast.IsSettled ↔ (waits = true → ∃ receipt, Rpc.Obtains broadcast.tx broadcast.polls receipt) := by
  cases waits with
  | false => simp [IsSettled, (taken.unawaited rfl).2]
  | true =>
    obtain ⟨answer, known, awaits⟩ := taken.awaited rfl
    simp [IsSettled, known, ← awaits.verdict.obtained_iff]

end Broadcast.IsTaken

namespace Shows

theorem none_taken {outcomes : List Outcome} {calls : List Call} (unsent : ∀ call ∈ calls, call.txId? = none)
    (untaken : ∀ outcome ∈ outcomes, outcome.tx? = none) :
    Shows contract order gasPrice waits payments outcomes calls [] where
  payments_eq := rfl
  taken := nofun
  calls_eq := ⟨calls, rfl, unsent⟩
  outcomes_eq := ⟨outcomes, rfl, untaken⟩

theorem cons {payment : Payment} {rest : List Payment} {outcomes : List Outcome} {calls : List Call}
    {broadcasts : List Broadcast} {first : Broadcast} (same : first.payment = payment) (taken : first.IsTaken waits)
    (others : Shows contract order gasPrice waits rest outcomes calls broadcasts) :
    Shows contract order gasPrice waits (payment :: rest) (first.outcome :: outcomes)
      (first.calls contract order gasPrice ++ calls) (first :: broadcasts) where
  payments_eq := by
    rw [List.map_cons, same, others.payments_eq]
    rfl
  taken broadcast listed := by
    rcases List.mem_cons.mp listed with rfl | later
    · exact taken
    · exact others.taken broadcast later
  calls_eq := by
    obtain ⟨unfinished, rfl, unsent⟩ := others.calls_eq
    exact ⟨unfinished, (List.append_assoc _ _ _).symm, unsent⟩
  outcomes_eq := by
    obtain ⟨untaken, rfl, without⟩ := others.outcomes_eq
    exact ⟨untaken, rfl, without⟩

variable {outcomes : List Outcome} {calls : List Call} {broadcasts : List Broadcast}

theorem txIds (shown : Shows contract order gasPrice waits payments outcomes calls broadcasts) :
    calls.filterMap Call.txId? = broadcasts.map Broadcast.tx := by
  obtain ⟨others, rfl, unsent⟩ := shown.calls_eq
  rw [List.filterMap_append, List.filterMap_eq_nil_iff.mpr unsent, List.append_nil, List.filterMap_flatMap,
    List.map_eq_flatMap]
  exact List.flatMap_congr fun broadcast listed => (shown.taken broadcast listed).txIds

theorem countP_outcomes (shown : Shows contract order gasPrice waits payments outcomes calls broadcasts) :
    (outcomes.countP fun outcome => outcome.tx?.isSome) = broadcasts.length := by
  obtain ⟨others, rfl, untaken⟩ := shown.outcomes_eq
  have all_taken : broadcasts.countP ((fun outcome : Outcome => outcome.tx?.isSome) ∘ Broadcast.outcome) =
      broadcasts.length := by
    refine List.countP_eq_length.mpr fun broadcast _ => ?_
    rw [Function.comp_apply, Broadcast.outcome]
    split <;> rfl
  rw [List.countP_append, List.countP_map, all_taken,
    List.countP_eq_zero.mpr fun outcome listed => by simp [untaken outcome listed], Nat.add_zero]

end Shows

theorem tx?_of_pending {outcome : Outcome} (rest : List Payment)
    (listed : outcome ∈ rest.map fun _ => Outcome.pending) : outcome.tx? = none := by
  obtain ⟨-, -, rfl⟩ := List.mem_map.mp listed
  rfl

/-- Every payment was taken, and nothing is missing of any. -/
def IsWhole (payments : List Payment) (broadcasts : List Broadcast) : Prop :=
  broadcasts.length = payments.length ∧ ∀ broadcast ∈ broadcasts, broadcast.IsSettled

theorem isWhole_cons_iff {payment : Payment} {rest : List Payment} {first : Broadcast} {broadcasts : List Broadcast} :
    IsWhole (payment :: rest) (first :: broadcasts) ↔ first.IsSettled ∧ IsWhole rest broadcasts := by
  simp only [IsWhole, List.length_cons, Nat.add_right_cancel_iff, List.forall_mem_cons]
  exact and_left_comm

theorem not_isWhole_nil {payment : Payment} {rest : List Payment} : ¬ IsWhole (payment :: rest) [] := by
  rintro ⟨⟨⟩, -⟩

section
variable {events : List TransportEvent} {url : String} {log : List HostEvent}

theorem Settlement.exists_broadcast (first : Settlement waits) (nonce : UInt64) (payment : Payment)
    (relayed : Told (Relays contract) (first.calls (order.request gasPrice nonce payment)) events)
    (wired : Told (Rpc.Wire url) events log) :
    ∃ broadcast : Broadcast, broadcast.payment = payment ∧ broadcast.outcome = first.outcome nonce ∧
      broadcast.IsSettled ∧ broadcast.IsTaken waits ∧ Rpc.calls log = broadcast.calls contract order gasPrice := by
  -- A run that waits has the receipt as the last call, and one that does not has none.
  cases first with
  | broadcast sent =>
    obtain ⟨tx, gasLimit⟩ := sent
    obtain ⟨_, _, rfl, transfer, ⟨⟩⟩ := relayed.of_cons
    obtain rfl := transfer.of_taken
    obtain ⟨broadcast, rfl, rfl, rfl, unawaited, taken, calls_eq⟩ := Batch.exists_broadcast none wired
    refine ⟨broadcast, rfl, ?_, ?_, taken, calls_eq⟩
    · simp [Broadcast.outcome, unawaited, outcome]
    · simp [Broadcast.IsSettled, unawaited]
  | confirmed sent confirmation =>
    obtain ⟨tx, gasLimit⟩ := sent
    obtain ⟨_, _, rfl, transfer, later⟩ := relayed.of_cons
    obtain ⟨_, _, rfl, wait, ⟨⟩⟩ := later.of_cons
    obtain rfl := transfer.of_taken
    obtain ⟨reason | receipt, ⟨rfl⟩, rfl⟩ := wait.of_waitConfirmed
    obtain ⟨broadcast, rfl, rfl, rfl, obtained, taken, calls_eq⟩ := Batch.exists_broadcast (some (.ok receipt)) wired
    refine ⟨broadcast, rfl, ?_, ?_, taken, calls_eq⟩
    · simp [Broadcast.outcome, obtained, outcome, Erc20.confirmationOf]
    · simp [Broadcast.IsSettled, obtained]

theorem Halt.shows (halt : Halt waits) (nonce : UInt64) (payment : Payment) (rest : List Payment)
    (fits : payment.amount < 2 ^ 256)
    (relayed : Told (Relays contract) (halt.calls (order.request gasPrice nonce payment)) events)
    (wired : Told (Rpc.Wire url) events log) :
    ∃ broadcasts, Shows contract order gasPrice waits (payment :: rest)
        (halt.outcome nonce :: rest.map fun _ => .pending) (Rpc.calls log) broadcasts ∧
      ¬ IsWhole (payment :: rest) broadcasts := by
  cases halt with
  | refused cause =>
    obtain ⟨part, _, rfl, transfer, ⟨⟩⟩ := relayed.of_cons
    rw [List.append_nil] at wired
    refine ⟨[], .none_taken (txId?_of_refused fits transfer wired) fun outcome listed => ?_, not_isWhole_nil⟩
    rcases List.mem_cons.mp listed with rfl | later
    · rfl
    · exact tx?_of_pending rest later
  | unconfirmed sent cause =>
    obtain ⟨tx, gasLimit⟩ := sent
    obtain ⟨_, _, rfl, transfer, others⟩ := relayed.of_cons
    obtain ⟨_, _, rfl, wait, ⟨⟩⟩ := others.of_cons
    obtain rfl := transfer.of_taken
    obtain ⟨reason | receipt, ⟨rfl⟩, rfl⟩ := wait.of_waitConfirmed
    obtain ⟨broadcast, rfl, rfl, rfl, missed, taken, calls_eq⟩ := exists_broadcast (some (.error reason)) wired
    -- The transaction is out although its receipt was missed, so it is shown, and nothing is behind it.
    have unreached : Shows contract order gasPrice true rest (rest.map fun _ => .pending) [] [] :=
      .none_taken (List.forall_mem_nil _) fun _ => tx?_of_pending rest
    have outcome : broadcast.outcome = .failed broadcast.nonce (some broadcast.tx) reason.toLedger := by
      simp [Broadcast.outcome, missed]
    refine ⟨[broadcast], ?_, ?_⟩
    · have shown := unreached.cons rfl taken
      rwa [List.append_nil, ← calls_eq, outcome] at shown
    · simp [isWhole_cons_iff, Broadcast.IsSettled, missed]

end

theorem Course.shows (taken : Course waits next payments) (index : Nat)
    (fits : ∀ payment ∈ payments, payment.amount < 2 ^ 256) {events : List TransportEvent}
    (relayed : Told (Relays contract) (taken.calls order gasPrice) events) {url : String} {log : List HostEvent}
    (wired : Told (Rpc.Wire url) events log) :
    ∃ broadcasts, Shows contract order gasPrice waits payments (taken.stretch gasPrice index).outcomes
        (Rpc.calls log) broadcasts ∧
      ((taken.stretch gasPrice index).failure = none ↔ IsWhole payments broadcasts) := by
  -- A settled payment stands in front of the broadcasts of the rest. A halt ends them, with one more if the
  -- node had taken the payment already.
  induction taken generalizing index events log with
  | finished =>
    cases relayed
    cases wired
    exact ⟨[], .none_taken (List.forall_mem_nil _) (List.forall_mem_nil _), by simp [stretch, IsWhole]⟩
  | exhausted =>
    cases relayed
    cases wired
    refine ⟨[], .none_taken (List.forall_mem_nil _) fun _ => tx?_of_pending _, ?_⟩
    simp [stretch, Stretch.stopped, not_isWhole_nil]
  | @halted nonce payment rest halt =>
    obtain ⟨broadcasts, shown, unfinished⟩ := halt.shows nonce payment rest (fits payment List.mem_cons_self)
      relayed wired
    exact ⟨broadcasts, shown, by simp [stretch, Stretch.stopped, unfinished]⟩
  | @settled nonce payment rest first others ih =>
    obtain ⟨_, _, rfl, relayed_first, relayed_later⟩ := relayed.of_append
    obtain ⟨_, _, rfl, wired_first, wired_later⟩ := wired.of_append
    obtain ⟨broadcast, same, outcome, settled, made, calls_eq⟩ :=
      first.exists_broadcast nonce payment relayed_first wired_first
    obtain ⟨broadcasts, shown, whole⟩ := ih (index + 1)
      (fun later listed => fits later (List.mem_cons_of_mem _ listed)) relayed_later wired_later
    refine ⟨broadcast :: broadcasts, ?_, ?_⟩
    · rw [Rpc.calls_append, calls_eq, stretch, Stretch.after, ← outcome]
      exact shown.cons same made
    · rw [isWhole_cons_iff, and_iff_right settled, ← whole, stretch, Stretch.after]

theorem isQuiet_of_questions {calls : List LedgerEvent} (no_request : requests calls = [])
    {events : List TransportEvent} (relayed : Told (Relays contract) calls events) :
    ∀ event ∈ events, event.isQuiet := by
  intro event listed
  obtain ⟨call, among, part, relays, within⟩ := relayed.exists_of_mem listed
  have none_asked : call.request? = none := List.filterMap_eq_nil_iff.mp no_request call among
  cases relays
  case unencoded large => cases none_asked
  case unestimated fits cause => cases none_asked
  case unsent fits gasLimit cause => cases none_asked
  case sent fits gasLimit tx => cases none_asked
  all_goals
    rw [List.mem_singleton.mp within]
    rfl

theorem txId?_of_quiet {log : List HostEvent} (quiet : Rpc.Quiet log) : ∀ call ∈ Rpc.calls log, call.txId? = none := by
  intro call listed
  simp [Call.txId?, (quiet call listed).1]

variable {plan : Plan}

theorem shows_withoutPayments {cause : Failure} (nonempty : plan.payments ≠ []) {calls : List LedgerEvent}
    (no_request : requests calls = []) {events : List TransportEvent} (relayed : Told (Relays contract) calls events)
    {url : String} {log : List HostEvent} (wired : Told (Rpc.Wire url) events log) :
    ∃ gasPrice asked paid broadcasts, Rpc.calls log = asked ++ paid ∧ (∀ call ∈ asked, call.txId? = none) ∧
      Shows contract order gasPrice order.waits plan.payments (Report.withoutPayments plan cause).outcomes
        paid broadcasts ∧
      ((Report.withoutPayments plan cause).isCompleted ↔ IsWhole plan.payments broadcasts) := by
  have quiet := Rpc.quiet_of_told wired (isQuiet_of_questions no_request relayed)
  refine ⟨0, _, [], [], (List.append_nil _).symm, txId?_of_quiet quiet,
    .none_taken (List.forall_mem_nil _) fun _ => tx?_of_pending _, ?_⟩
  constructor
  · rintro ⟨⟩
  · rintro ⟨short, -⟩
    exact absurd (List.length_eq_zero_iff.mp short.symm) nonempty

theorem Run.length_outcomes (made : Run order plan) : made.report.outcomes.length = plan.payments.length := by
  cases made with
  | sequenced balance covered price start taken =>
    exact (reconciles_sequenced covered price start taken).length_outcomes
  | _ => exact List.length_map _

theorem Run.shows (made : Run order plan) (nonempty : plan.payments ≠ []) {events : List TransportEvent}
    (relayed : Told (Relays contract) made.calls events) {url : String} {log : List HostEvent}
    (wired : Told (Rpc.Wire url) events log) :
    ∃ gasPrice asked paid broadcasts, Rpc.calls log = asked ++ paid ∧ (∀ call ∈ asked, call.txId? = none) ∧
      Shows contract order gasPrice order.waits plan.payments made.report.outcomes paid broadcasts ∧
      (made.report.isCompleted ↔ IsWhole plan.payments broadcasts) := by
  cases made with
  | unknownFunds cause => exact shows_withoutPayments nonempty rfl relayed wired
  | shortFunds balance short => exact shows_withoutPayments nonempty rfl relayed wired
  | unpriced balance covered price =>
    refine shows_withoutPayments nonempty ?_ relayed wired
    rw [calls, price.calls_eq]
    rfl
  | unnumbered balance covered price start =>
    refine shows_withoutPayments nonempty ?_ relayed wired
    rw [calls, price.calls_eq, start.calls_eq]
    split <;> rfl
  | sequenced balance covered price start taken =>
    -- The questions for funds and terms come first; the payments after them fit because the funds cover them.
    have questions : requests (.balanceOf order.payer (.ok balance) ::
        (price.calls .suggestGasPrice ++ start.calls (.pendingNonce order.payer))) = [] := by
      rw [price.calls_eq, start.calls_eq]
      split <;> split <;> rfl
    rw [calls, ← List.cons_append] at relayed
    obtain ⟨asks, pays, rfl, relayed_asks, relayed_pays⟩ := relayed.of_append
    obtain ⟨asked, paid, rfl, wired_asks, wired_pays⟩ := wired.of_append
    have fits : ∀ payment ∈ plan.payments, payment.amount < 2 ^ 256 := by
      obtain ⟨part, _, rfl, funds, -⟩ := relayed_asks.of_cons
      obtain ⟨reply, answer, -⟩ := funds.of_balanceOf
      exact fun payment listed => IsCovered.fits ⟨balance, answer.symm, covered⟩ listed
    have quiet := Rpc.quiet_of_told wired_asks (isQuiet_of_questions questions relayed_asks)
    obtain ⟨broadcasts, shown, whole⟩ := taken.shows 0 fits relayed_pays wired_pays
    refine ⟨price.value, _, _, broadcasts, Rpc.calls_append _ _, txId?_of_quiet quiet, shown, ?_⟩
    rw [← whole, Report.isCompleted_iff]
    simp [report, Stretch.ending_eq_completed]

end Batch

end TokenDesk
