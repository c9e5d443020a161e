import TokenDesk.Proofs.Batch.Run

/-! The same plan, with and without waiting for confirmations.

Both runs ask the same of a ledger that answers by the earlier transfers alone, up to the
first confirmation that is missed. Waiting changes what is accounted for the payments and
never which are made.
-/

set_option autoImplicit false

namespace TokenDesk

inductive LedgerCall where
  | balanceOf (owner : Address)
  | pendingNonce (account : Address)
  | suggestGasPrice
  | transfer (request : Transfer)
  | waitConfirmed (tx : TxId)

namespace LedgerCall

def request? : LedgerCall → Option Transfer
  | transfer request => some request
  | _ => none

def requests (calls : List LedgerCall) : List Transfer :=
  calls.filterMap request?

variable {σ : Type}

def effect (ledger : Ledger (StateM σ)) (state : σ) : LedgerCall → σ
  | balanceOf owner => ((ledger.balanceOf owner).run.run state).2
  | pendingNonce account => ((ledger.pendingNonce account).run.run state).2
  | suggestGasPrice => (ledger.suggestGasPrice.run.run state).2
  | transfer request => ((ledger.transfer request).run.run state).2
  | waitConfirmed tx => ((ledger.waitConfirmed tx).run.run state).2

end LedgerCall

namespace Ledger

variable {σ : Type}

def stateAfter (ledger : Ledger (StateM σ)) (state : σ) (calls : List LedgerCall) : σ :=
  calls.foldl (LedgerCall.effect ledger) state

/-- Whatever was called before, the answer is the same if the requests for transfers were. -/
def IsByTransfers {α : Type} (ledger : Ledger (StateM σ)) (state : σ) (ask : ExceptT LedgerError (StateM σ) α) :
    Prop :=
  ∀ calls others, LedgerCall.requests calls = LedgerCall.requests others →
    (ask.run.run (ledger.stateAfter state calls)).1 = (ask.run.run (ledger.stateAfter state others)).1

/-- All but the confirmations depend on the earlier requests for transfers only. -/
structure AnswersByTransfers (ledger : Ledger (StateM σ)) (state : σ) : Prop where
  balanceOf : ∀ owner, ledger.IsByTransfers state (ledger.balanceOf owner)
  pendingNonce : ∀ account, ledger.IsByTransfers state (ledger.pendingNonce account)
  suggestGasPrice : ledger.IsByTransfers state ledger.suggestGasPrice
  transfer : ∀ request, ledger.IsByTransfers state (ledger.transfer request)

/-- Two states that the same transfers lead to. -/
def Alike (ledger : Ledger (StateM σ)) (state left right : σ) : Prop :=
  ∃ calls others, LedgerCall.requests calls = LedgerCall.requests others ∧
    left = ledger.stateAfter state calls ∧ right = ledger.stateAfter state others

variable {ledger : Ledger (StateM σ)} {state left right : σ}

theorem alike_refl (ledger : Ledger (StateM σ)) (state : σ) : ledger.Alike state state state :=
  ⟨[], [], rfl, rfl, rfl⟩

theorem Alike.effect (alike : ledger.Alike state left right) (call : LedgerCall) :
    ledger.Alike state (call.effect ledger left) (call.effect ledger right) := by
  obtain ⟨calls, others, same, rfl, rfl⟩ := alike
  refine ⟨calls ++ [call], others ++ [call], ?_, ?_, ?_⟩
  · unfold LedgerCall.requests at same ⊢
    rw [List.filterMap_append, List.filterMap_append, same]
  · simp [stateAfter]
  · simp [stateAfter]

theorem Alike.effect_waitConfirmed (alike : ledger.Alike state left right) (tx : TxId) :
    ledger.Alike state (LedgerCall.effect ledger left (.waitConfirmed tx)) right := by
  obtain ⟨calls, others, same, rfl, rfl⟩ := alike
  refine ⟨calls ++ [.waitConfirmed tx], others, ?_, ?_, rfl⟩
  · unfold LedgerCall.requests at same ⊢
    rw [List.filterMap_append, same]
    exact List.append_nil _
  · simp [stateAfter]

theorem Alike.ask {α : Type} {ask : ExceptT LedgerError (StateM σ) α} (call : LedgerCall)
    (made : ∀ before, call.effect ledger before = (ask.run.run before).2)
    (alike : ledger.Alike state left right) (settled : ledger.IsByTransfers state ask) :
    ∃ answer after after', ask.run.run left = (answer, after) ∧ ask.run.run right = (answer, after') ∧
      ledger.Alike state after after' := by
  have effects := alike.effect call
  rw [made, made] at effects
  obtain ⟨calls, others, same, rfl, rfl⟩ := alike
  refine ⟨(ask.run.run (ledger.stateAfter state calls)).1, _, _, rfl, ?_, effects⟩
  exact Prod.ext (settled calls others same).symm rfl

end Ledger

namespace Batch

def Order.waiting (order : Order) : Order :=
  { order with waits := true }

def Order.hasty (order : Order) : Order :=
  { order with waits := false }

/-! A run with confirmations and the run without them. -/

inductive AttemptFollows :
    Except (Halt true) (Settlement true) → Except (Halt false) (Settlement false) → Prop where
  | refused (cause : LedgerError) : AttemptFollows (.error (.refused cause)) (.error (.refused cause))
  | unconfirmed (sent : Submitted) (cause : LedgerError) :
      AttemptFollows (.error (.unconfirmed sent cause)) (.ok (.broadcast sent))
  | confirmed (sent : Submitted) (confirmation : Confirmation) :
      AttemptFollows (.ok (.confirmed sent confirmation)) (.ok (.broadcast sent))

/-- The courses agree payment by payment until a confirmation is missed. -/
inductive Course.Follows : {next : Option UInt64} → {payments : List Payment} →
    Course true next payments → Course false next payments → Prop where
  | finished {next : Option UInt64} : Follows (.finished : Course true next []) .finished
  | exhausted {payment : Payment} {rest : List Payment} :
      Follows (.exhausted : Course true none (payment :: rest)) .exhausted
  | refused {nonce : UInt64} {payment : Payment} {rest : List Payment} (cause : LedgerError) :
      Follows (.halted (.refused cause) : Course true (some nonce) (payment :: rest)) (.halted (.refused cause))
  | unconfirmed {nonce : UInt64} {payment : Payment} {rest : List Payment} (sent : Submitted) (cause : LedgerError)
      (others : Course false (nonceAfter nonce) rest) :
      Follows (.halted (.unconfirmed sent cause) : Course true (some nonce) (payment :: rest))
        (.settled (.broadcast sent) others)
  | confirmed {nonce : UInt64} {payment : Payment} {rest : List Payment} (sent : Submitted)
      (confirmation : Confirmation) {waiting : Course true (nonceAfter nonce) rest}
      {hasty : Course false (nonceAfter nonce) rest} (others : Follows waiting hasty) :
      Follows (.settled (.confirmed sent confirmation) waiting : Course true (some nonce) (payment :: rest))
        (.settled (.broadcast sent) hasty)

inductive Run.Follows {order : Order} {plan : Plan} : Run order.waiting plan → Run order.hasty plan → Prop where
  | unknownFunds (cause : LedgerError) : Follows (.unknownFunds cause) (.unknownFunds cause)
  | shortFunds (balance : Amount) (short : balance < plan.total) :
      Follows (.shortFunds balance short) (.shortFunds balance short)
  | unpriced (balance : Amount) (covered : plan.total ≤ balance) (price : Unanswered order.gasPrice) :
      Follows (.unpriced balance covered price) (.unpriced balance covered price)
  | unnumbered (balance : Amount) (covered : plan.total ≤ balance) (price : Term order.gasPrice)
      (start : Unanswered order.startNonce) :
      Follows (.unnumbered balance covered price start) (.unnumbered balance covered price start)
  | sequenced (balance : Amount) (covered : plan.total ≤ balance) (price : Term order.gasPrice)
      (start : Term order.startNonce) {waiting : Course true (some start.value) plan.payments}
      {hasty : Course false (some start.value) plan.payments} (courses : waiting.Follows hasty) :
      Follows (.sequenced balance covered price start waiting) (.sequenced balance covered price start hasty)

section
variable {σ : Type} {ledger : Ledger (StateM σ)} {state left right : σ}

theorem attempt_follows (settled : ledger.AnswersByTransfers state) (request : Transfer)
    (alike : ledger.Alike state left right) :
    ∃ first after second after', (attempt ledger request true).run.run left = (first, after) ∧
      (attempt ledger request false).run.run right = (second, after') ∧
      AttemptFollows first second ∧ ledger.Alike state after after' := by
  obtain ⟨answer, middle, middle', asked, asked', alike⟩ :=
    alike.ask (.transfer request) (fun _ => rfl) (settled.transfer request)
  rw [attempt, attempt, ExceptT.run_bind, ExceptT.run_bind, ExceptT.run_adapt, ExceptT.run_adapt,
    run_bind_of (run_map_of asked _), run_bind_of (run_map_of asked' _)]
  cases answer with
  | error cause => exact ⟨_, middle, _, middle', rfl, rfl, .refused cause, alike⟩
  | ok sent =>
    obtain ⟨⟨receipt, after⟩, waited⟩ : ∃ answer,
        (ledger.waitConfirmed sent.tx).run.run middle = answer := ⟨_, rfl⟩
    have alike := alike.effect_waitConfirmed sent.tx
    rw [LedgerCall.effect, waited] at alike
    simp only [mapError_ok]
    rw [ExceptT.run_bind, ExceptT.run_adapt, run_bind_of (run_map_of waited _)]
    cases receipt with
    | error cause => exact ⟨_, after, _, middle', rfl, rfl, .unconfirmed sent cause, alike⟩
    | ok confirmation => exact ⟨_, after, _, middle', rfl, rfl, .confirmed sent confirmation, alike⟩

theorem course_follows (settled : ledger.AnswersByTransfers state) (order : Order) (gasPrice : Amount)
    (next : Option UInt64) (payments : List Payment) (alike : ledger.Alike state left right) :
    ∃ (waiting : Course true next payments) (after : σ) (hasty : Course false next payments) (after' : σ),
      (course ledger order.waiting gasPrice next payments).run left = (waiting, after) ∧
      (course ledger order.hasty gasPrice next payments).run right = (hasty, after') ∧ waiting.Follows hasty := by
  induction payments generalizing next left right with
  | nil => cases next <;> exact ⟨.finished, left, .finished, right, rfl, rfl, .finished⟩
  | cons payment rest ih =>
    cases next with
    | none => exact ⟨.exhausted, left, .exhausted, right, rfl, rfl, .exhausted⟩
    | some nonce =>
      obtain ⟨first, middle, second, middle', attempted, attempted', follows, alike⟩ :=
        attempt_follows settled (order.request gasPrice nonce payment) alike
      cases follows with
      | refused cause =>
        exact ⟨_, middle, _, middle', course_halted rest attempted,
          course_halted rest attempted', .refused cause⟩
      | unconfirmed sent cause =>
        -- The hasty run goes on, to wherever the ledger lets it.
        obtain ⟨⟨others, after'⟩, went⟩ : ∃ others,
            (course ledger order.hasty gasPrice (nonceAfter nonce) rest).run middle' = others := ⟨_, rfl⟩
        exact ⟨_, middle, _, after', course_halted rest attempted,
          course_settled attempted' went, .unconfirmed sent cause others⟩
      | confirmed sent confirmation =>
        obtain ⟨waiting, after, hasty, after', went, went', others⟩ := ih (nonceAfter nonce) alike
        exact ⟨_, after, _, after', course_settled attempted went,
          course_settled attempted' went', .confirmed sent confirmation others⟩

theorem term_follows {α : Type} {ask : ExceptT LedgerError (StateM σ) α} (call : LedgerCall)
    (made : ∀ before, call.effect ledger before = (ask.run.run before).2) (settled : ledger.IsByTransfers state ask)
    (fixed : Option α) (alike : ledger.Alike state left right) :
    ∃ answer after after', (term ask fixed).run.run left = (answer, after) ∧
      (term ask fixed).run.run right = (answer, after') ∧ ledger.Alike state after after' := by
  cases fixed with
  | some value => exact ⟨.ok (.fixed value), left, right, rfl, rfl, alike⟩
  | none =>
    obtain ⟨answer, after, after', asked, asked', alike⟩ := alike.ask call made settled
    rw [term, ExceptT.run_map, ExceptT.run_adapt]
    exact ⟨_, after, after', run_map_of (run_map_of asked _) _, run_map_of (run_map_of asked' _) _, alike⟩

theorem run_follows (settled : ledger.AnswersByTransfers state) (order : Order) (plan : Plan) :
    ∃ (waiting : Run order.waiting plan) (after : σ) (hasty : Run order.hasty plan) (after' : σ),
      (run ledger order.waiting plan).run state = (waiting, after) ∧
      (run ledger order.hasty plan).run state = (hasty, after') ∧ waiting.Follows hasty := by
  obtain ⟨funds, first, first', asked, asked', alike⟩ :=
    (ledger.alike_refl state).ask (.balanceOf order.payer) (fun _ => rfl) (settled.balanceOf order.payer)
  -- Up to the payments the two orders agree in all that is asked for.
  have funded : (ledger.balanceOf order.waiting.payer).run.run state = (funds, first) := asked
  have funded' : (ledger.balanceOf order.hasty.payer).run.run state = (funds, first') := asked'
  rw [run, run, run_bind_of funded, run_bind_of funded']
  cases funds with
  | error cause => exact ⟨_, first, _, first', rfl, rfl, .unknownFunds cause⟩
  | ok balance =>
    by_cases short : balance < plan.total
    · simp only [short, dite_true]
      exact ⟨_, first, _, first', rfl, rfl, .shortFunds balance short⟩
    simp only [short, dite_false]
    have covered := Nat.le_of_not_lt short
    obtain ⟨price, second, second', asked, asked', alike⟩ :=
      term_follows .suggestGasPrice (fun _ => rfl) settled.suggestGasPrice order.gasPrice alike
    have priced : (term ledger.suggestGasPrice order.waiting.gasPrice).run.run first = (price, second) := asked
    have priced' : (term ledger.suggestGasPrice order.hasty.gasPrice).run.run first' = (price, second') := asked'
    rw [run_bind_of priced, run_bind_of priced']
    cases price with
    | error price => exact ⟨_, second, _, second', rfl, rfl, .unpriced balance covered price⟩
    | ok price =>
      obtain ⟨start, third, third', asked, asked', alike⟩ := term_follows (.pendingNonce order.payer) (fun _ => rfl)
        (settled.pendingNonce order.payer) order.startNonce alike
      have numbered : (term (ledger.pendingNonce order.waiting.payer) order.waiting.startNonce).run.run second =
        (start, third) := asked
      have numbered' : (term (ledger.pendingNonce order.hasty.payer) order.hasty.startNonce).run.run second' =
        (start, third') := asked'
      dsimp only
      rw [run_bind_of numbered, run_bind_of numbered']
      cases start with
      | error start => exact ⟨_, third, _, third', rfl, rfl, .unnumbered balance covered price start⟩
      | ok start =>
        obtain ⟨waiting, after, hasty, after', went, went', courses⟩ :=
          course_follows settled order price.value (some start.value) plan.payments alike
        exact ⟨_, after, _, after', run_bind_of went _, run_bind_of went' _,
          .sequenced balance covered price start courses⟩

end

end Batch

def LedgerEvent.transfer? : LedgerEvent → Option (Transfer × Except LedgerError Submitted)
  | transfer request answer => some (request, answer)
  | _ => none

def LedgerEvent.wait? : LedgerEvent → Option (TxId × Except LedgerError Confirmation)
  | waitConfirmed tx answer => some (tx, answer)
  | _ => none

namespace Batch

def transfersIn (calls : List LedgerEvent) : List (Transfer × Except LedgerError Submitted) :=
  calls.filterMap LedgerEvent.transfer?

def waitsIn (calls : List LedgerEvent) : List (TxId × Except LedgerError Confirmation) :=
  calls.filterMap LedgerEvent.wait?

def AllConfirmed (calls : List LedgerEvent) : Prop :=
  ∀ tx cause, (tx, .error cause) ∉ waitsIn calls

def Outcome.unconfirmed : Outcome → Outcome
  | confirmed nonce tx _ _ => .broadcast nonce tx
  | other => other

def Ending.withGasTotal (gasTotal : Amount) : Ending → Ending
  | @completed _ txIds => @completed gasTotal txIds
  | other => other

/-- The report as it is if nobody waits, with the gas that is then accounted for. -/
def Report.unconfirmed (gasTotal : Amount) (report : Report) : Report :=
  { ending := report.ending.withGasTotal gasTotal, nextNonce := report.nextNonce, gasPrice := report.gasPrice,
    gasTotal, outcomes := report.outcomes.map Outcome.unconfirmed }

def Stretch.unconfirmed (gasTotal : Amount) (stretch : Stretch) : Stretch :=
  { stretch with gasTotal, outcomes := stretch.outcomes.map Outcome.unconfirmed }

theorem Outcome.tx?_unconfirmed (outcome : Outcome) : outcome.unconfirmed.tx? = outcome.tx? := by
  cases outcome <;> rfl

theorem Stretch.ending_unconfirmed (gasTotal : Amount) (stretch : Stretch) :
    (stretch.unconfirmed gasTotal).ending = stretch.ending.withGasTotal gasTotal := by
  have kept : Outcome.tx? ∘ Outcome.unconfirmed = Outcome.tx? := funext Outcome.tx?_unconfirmed
  obtain ⟨failure, nextNonce, total, outcomes⟩ := stretch
  cases failure with
  | none => simp only [ending, unconfirmed, Ending.withGasTotal, List.filterMap_map, kept]
  | some met => rfl

theorem Stretch.report_unconfirmed (gasPrice : Amount) {waited hurried : Stretch}
    (same : hurried = waited.unconfirmed hurried.gasTotal) :
    hurried.report gasPrice = (waited.report gasPrice).unconfirmed hurried.gasTotal := by
  have nonces := congrArg Stretch.nextNonce same
  have outcomes := congrArg Stretch.outcomes same
  simp only [report, Report.unconfirmed]
  rw [← ending_unconfirmed, ← same, nonces, outcomes]
  rfl

namespace Course.Follows

variable {next : Option UInt64} {payments : List Payment} {waiting : Course true next payments}
  {hasty : Course false next payments}

theorem transfers_prefix (follows : waiting.Follows hasty) (order : Order) (gasPrice : Amount) :
    transfersIn (waiting.calls order.waiting gasPrice) <+: transfersIn (hasty.calls order.hasty gasPrice) := by
  induction follows with
  | finished => exact List.prefix_rfl
  | exhausted => exact List.prefix_rfl
  | refused cause => exact List.prefix_rfl
  | unconfirmed sent cause others => exact List.cons_prefix_cons.mpr ⟨rfl, List.nil_prefix⟩
  | confirmed sent confirmation others ih => exact List.cons_prefix_cons.mpr ⟨rfl, ih⟩

theorem transfers_eq (follows : waiting.Follows hasty) (order : Order) (gasPrice : Amount)
    (confirmed : AllConfirmed (waiting.calls order.waiting gasPrice)) :
    transfersIn (waiting.calls order.waiting gasPrice) = transfersIn (hasty.calls order.hasty gasPrice) := by
  induction follows with
  | finished => rfl
  | exhausted => rfl
  | refused cause => rfl
  | unconfirmed sent cause others => exact absurd List.mem_cons_self (confirmed sent.tx cause)
  | confirmed sent confirmation others ih =>
    have later := ih fun tx cause missed => confirmed tx cause (List.mem_cons_of_mem _ missed)
    exact congrArg (List.cons _) later

theorem stretch_eq (follows : waiting.Follows hasty) (order : Order) (gasPrice : Amount) (index : Nat)
    (confirmed : AllConfirmed (waiting.calls order.waiting gasPrice)) :
    hasty.stretch gasPrice index =
      (waiting.stretch gasPrice index).unconfirmed (hasty.stretch gasPrice index).gasTotal := by
  induction follows generalizing index with
  | finished => rfl
  | exhausted => simp [stretch, Stretch.stopped, Stretch.unconfirmed, Outcome.unconfirmed]
  | refused cause =>
    simp [stretch, Stretch.stopped, Stretch.unconfirmed, Outcome.unconfirmed, Halt.failure, Halt.outcome,
      Halt.nextNonce]
  | unconfirmed sent cause others => exact absurd List.mem_cons_self (confirmed sent.tx cause)
  | confirmed sent confirmation others ih =>
    have later := ih (index + 1) fun tx cause missed => confirmed tx cause (List.mem_cons_of_mem _ missed)
    rw [stretch, stretch, later]
    rfl

theorem missed (follows : waiting.Follows hasty) (order : Order) (gasPrice : Amount) (first : Nat) {index : Nat}
    {tx : TxId} {cause : LedgerError}
    (here : (waitsIn (waiting.calls order.waiting gasPrice))[index]? = some (tx, .error cause)) :
    transfersIn (waiting.calls order.waiting gasPrice) =
        (transfersIn (hasty.calls order.hasty gasPrice)).take (index + 1) ∧
      (transfersIn (waiting.calls order.waiting gasPrice)).length = index + 1 ∧
      (waiting.stretch gasPrice first).failure =
        some (first + index, .confirmationFailed (first + index) tx cause) := by
  -- Each payment that is confirmed takes one from the index, until it is at the one that was missed.
  induction follows generalizing first index with
  | finished => cases here
  | exhausted => cases here
  | refused cause => cases here
  | unconfirmed sent cause others =>
    cases index with
    | zero =>
      cases here
      exact ⟨rfl, rfl, rfl⟩
    | succ index => cases here
  | confirmed sent confirmation others ih =>
    cases index with
    | zero => cases here
    | succ index =>
      obtain ⟨transfers, length, failure⟩ := ih (first + 1) here
      refine ⟨congrArg (List.cons _) transfers, congrArg (· + 1) length, ?_⟩
      rw [stretch, Stretch.after, failure, Nat.add_assoc, Nat.add_comm 1]

end Course.Follows

/-- What waiting changes in a run: the payments stop at the first confirmation that is missed, and up to
there only the accounts differ. -/
structure OnlyAccounts (waiting hasty : List LedgerEvent) (waited hurried : Report) : Prop where
  transfers_prefix : transfersIn waiting <+: transfersIn hasty
  transfers_eq : AllConfirmed waiting → transfersIn waiting = transfersIn hasty
  report_eq : AllConfirmed waiting → hurried = waited.unconfirmed hurried.gasTotal
  missed : ∀ index tx cause, (waitsIn waiting)[index]? = some (tx, .error cause) →
    transfersIn waiting = (transfersIn hasty).take (index + 1) ∧ (transfersIn waiting).length = index + 1 ∧
      waited.ending = .abortedAt index (.confirmationFailed index tx cause)

theorem onlyAccounts_withoutPayments (plan : Plan) (cause : Failure) {calls : List LedgerEvent}
    (none_awaited : waitsIn calls = []) :
    OnlyAccounts calls calls (.withoutPayments plan cause) (.withoutPayments plan cause) where
  transfers_prefix := List.prefix_rfl
  transfers_eq _ := rfl
  report_eq _ := by simp [Report.withoutPayments, Report.unconfirmed, Ending.withGasTotal, Outcome.unconfirmed]
  missed index tx cause here := by
    rw [none_awaited] at here
    cases here

theorem Course.Follows.onlyAccounts {order : Order} {plan : Plan} {balance : Amount} (covered : plan.total ≤ balance)
    (price : Term order.gasPrice) (start : Term order.startNonce)
    {waiting : Course true (some start.value) plan.payments} {hasty : Course false (some start.value) plan.payments}
    (follows : waiting.Follows hasty) :
    OnlyAccounts (@Run.sequenced order.waiting plan balance covered price start waiting).calls
      (@Run.sequenced order.hasty plan balance covered price start hasty).calls
      (@Run.sequenced order.waiting plan balance covered price start waiting).report
      (@Run.sequenced order.hasty plan balance covered price start hasty).report := by
  -- Of the calls of a run, only those for its payments are transfers or waits.
  have transfers : transfersIn (@Run.sequenced order.waiting plan balance covered price start waiting).calls =
      transfersIn (waiting.calls order.waiting price.value) :=
    @Run.filterMap_calls order.waiting plan _ _ (fun _ => rfl) (fun _ => rfl) (fun _ => rfl) _ covered price start
      waiting
  have transfers' : transfersIn (@Run.sequenced order.hasty plan balance covered price start hasty).calls =
      transfersIn (hasty.calls order.hasty price.value) :=
    @Run.filterMap_calls order.hasty plan _ _ (fun _ => rfl) (fun _ => rfl) (fun _ => rfl) _ covered price start
      hasty
  have waits : waitsIn (@Run.sequenced order.waiting plan balance covered price start waiting).calls =
      waitsIn (waiting.calls order.waiting price.value) :=
    @Run.filterMap_calls order.waiting plan _ _ (fun _ => rfl) (fun _ => rfl) (fun _ => rfl) _ covered price start
      waiting
  constructor
  case transfers_prefix =>
    rw [transfers, transfers']
    exact follows.transfers_prefix order price.value
  case transfers_eq =>
    intro confirmed
    rw [AllConfirmed, waits] at confirmed
    rw [transfers, transfers']
    exact follows.transfers_eq order price.value confirmed
  case report_eq =>
    intro confirmed
    rw [AllConfirmed, waits] at confirmed
    exact Stretch.report_unconfirmed price.value (follows.stretch_eq order price.value 0 confirmed)
  case missed =>
    intro index tx cause here
    rw [waits] at here
    obtain ⟨taken, length, failure⟩ := follows.missed order price.value 0 here
    rw [Nat.zero_add] at failure
    rw [transfers, transfers']
    exact ⟨taken, length, (Stretch.ending_eq_abortedAt _ _ _).mpr failure⟩

theorem Run.Follows.onlyAccounts {order : Order} {plan : Plan} {waiting : Run order.waiting plan}
    {hasty : Run order.hasty plan} (follows : waiting.Follows hasty) :
    OnlyAccounts waiting.calls hasty.calls waiting.report hasty.report := by
  obtain ⟨payer, gasPrice, startNonce, waits⟩ := order
  cases follows with
  | unknownFunds cause => exact onlyAccounts_withoutPayments plan _ rfl
  | shortFunds balance short => exact onlyAccounts_withoutPayments plan _ rfl
  | unpriced balance covered price =>
    apply onlyAccounts_withoutPayments
    cases price
    rfl
  | unnumbered balance covered price start =>
    apply onlyAccounts_withoutPayments
    cases price <;> cases start <;> rfl
  | sequenced balance covered price start courses => exact courses.onlyAccounts covered price start

variable {σ : Type}

/-- Waiting changes only the accounts, on every ledger that answers by the transfers. -/
theorem execute_onlyAccounts (ledger : Ledger (StateM σ)) (state : σ) (settled : ledger.AnswersByTransfers state)
    (order : Order) (plan : Plan) :
    OnlyAccounts (callsOf ledger order.waiting plan state) (callsOf ledger order.hasty plan state)
      (reportOf ledger order.waiting plan state) (reportOf ledger order.hasty plan state) := by
  obtain ⟨waiting, after, hasty, after', waited, hurried, follows⟩ := run_follows settled order plan
  rw [calls_of_run waited, calls_of_run hurried, (execute_of_run waited).1, (execute_of_run hurried).1]
  exact follows.onlyAccounts

/-! A ledger whose confirmations depend on how often they were asked for. -/

structure Visits where
  requested : List Transfer
  waits : Nat

/-- The first confirmation is of a transaction that took no effect, and there is no other. -/
def fickle : Ledger (StateM Visits) where
  balanceOf _ := ExceptT.mk fun visits => (.ok (10 - visits.requested.length : Nat), visits)
  pendingNonce _ := ExceptT.mk fun visits => (.ok (UInt64.ofNat visits.requested.length), visits)
  chainId := pure default
  suggestGasPrice := pure (2 : Nat)
  transfer request := ExceptT.mk fun visits =>
    (.ok { tx := ⟨List.replicate 32 request.nonce.toUInt8, rfl⟩, gasLimit := 90000 },
      { visits with requested := visits.requested ++ [request] })
  waitConfirmed tx := ExceptT.mk fun visits =>
    (if visits.waits = 0 then .ok { gasUsed := 60000, success := false } else .error (.confirmationTimeout tx),
      { visits with waits := visits.waits + 1 })

theorem requested_fickle (calls : List LedgerCall) (visits : Visits) :
    (fickle.stateAfter visits calls).requested = visits.requested ++ LedgerCall.requests calls := by
  induction calls generalizing visits with
  | nil => exact (List.append_nil _).symm
  | cons call rest ih =>
    have later := ih (call.effect fickle visits)
    cases call with
    | transfer request => exact later.trans (List.append_assoc _ [request] _)
    | balanceOf owner => exact later
    | pendingNonce account => exact later
    | suggestGasPrice => exact later
    | waitConfirmed tx => exact later

theorem fickle_answersByTransfers (visits : Visits) : fickle.AnswersByTransfers visits := by
  have requested (calls others : List LedgerCall) (same : LedgerCall.requests calls = LedgerCall.requests others) :
      (fickle.stateAfter visits calls).requested = (fickle.stateAfter visits others).requested := by
    rw [requested_fickle, requested_fickle, same]
  constructor
  case balanceOf =>
    intro owner calls others same
    exact congrArg (fun made => Except.ok (10 - List.length made)) (requested calls others same)
  case pendingNonce =>
    intro account calls others same
    exact congrArg (fun made => Except.ok (UInt64.ofNat (List.length made))) (requested calls others same)
  case suggestGasPrice =>
    intro calls others same
    rfl
  case transfer =>
    intro request calls others same
    rfl

def threePayments : Plan :=
  .ofPayments [⟨.zero, 1, 1⟩, ⟨.zero, 2, 2⟩, ⟨.zero, 3, 3⟩]

theorem onlyAccounts_fickle :
    fickle.AnswersByTransfers ⟨[], 0⟩ ∧
      (transfersIn (callsOf fickle (Order.waiting ⟨.zero, none, none, true⟩) threePayments ⟨[], 0⟩)).length = 2 ∧
      (transfersIn (callsOf fickle (Order.hasty ⟨.zero, none, none, true⟩) threePayments ⟨[], 0⟩)).length = 3 ∧
      OnlyAccounts (callsOf fickle (Order.waiting ⟨.zero, none, none, true⟩) threePayments ⟨[], 0⟩)
        (callsOf fickle (Order.hasty ⟨.zero, none, none, true⟩) threePayments ⟨[], 0⟩)
        (reportOf fickle (Order.waiting ⟨.zero, none, none, true⟩) threePayments ⟨[], 0⟩)
        (reportOf fickle (Order.hasty ⟨.zero, none, none, true⟩) threePayments ⟨[], 0⟩) :=
  ⟨fickle_answersByTransfers _, rfl, rfl, execute_onlyAccounts fickle _ (fickle_answersByTransfers _) _ _⟩

end Batch

end TokenDesk
