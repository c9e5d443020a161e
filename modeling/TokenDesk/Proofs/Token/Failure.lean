import TokenDesk.Proofs.Token.Operation
import TokenDesk.Proofs.Token.Relay

/-! How the questions to the ledger of a token contract fail.

A failure of the transport comes to the user of the ledger as it is, as the failure of a
contract, or as that of a submission. Whichever way it comes, the ledger fails with the
same error, and the cause alone decides with which.
-/

set_option autoImplicit false

namespace TokenDesk

/-- What the user of a ledger is told of a failure of the transport. Texts are kept as they are. -/
inductive TransportError.IsReportedAs : TransportError → LedgerError → Prop where
  | certain (code : Int) {text : String} : SaysAlwaysFails text → IsReportedAs (.rpc code text) .wouldAlwaysFail
  | refused (code : Int) {text : String} : ¬ SaysAlwaysFails text → IsReportedAs (.rpc code text) (.rejected text)
  | unreached (text : String) : IsReportedAs (.http text) (.transport text)
  | unread (text : String) : IsReportedAs (.invalidResponse text) (.invalidResponse text)
  | unconfirmed (tx : TxId) (waited : Duration) : IsReportedAs (.timeout tx waited) (.confirmationTimeout tx)

def failureOf {ε α : Type} : Except ε α → Option ε
  | .error cause => some cause
  | .ok _ => none

def TransportEvent.failure? : TransportEvent → Option TransportError
  | call _ _ answer => failureOf answer
  | estimateGas _ _ _ answer => failureOf answer
  | sendTransaction _ answer => failureOf answer
  | pendingNonce _ answer => failureOf answer
  | networkId answer => failureOf answer
  | gasPrice answer => failureOf answer
  | waitForReceipt _ answer => failureOf answer
  | unlockAccount _ _ _ answer => failureOf answer

inductive LedgerQuestion where
  | balanceOf (owner : Address)
  | pendingNonce (account : Address)
  | chainId
  | suggestGasPrice
  | transfer (request : Transfer)
  | waitConfirmed (tx : TxId)

namespace LedgerQuestion

def Answer : LedgerQuestion → Type
  | balanceOf _ => Amount
  | pendingNonce _ => UInt64
  | chainId => ChainId
  | suggestGasPrice => Amount
  | transfer _ => Submitted
  | waitConfirmed _ => Confirmation

def ask {m : Type → Type} (ledger : Ledger m) : (question : LedgerQuestion) → ExceptT LedgerError m question.Answer
  | balanceOf owner => ledger.balanceOf owner
  | pendingNonce account => ledger.pendingNonce account
  | chainId => ledger.chainId
  | suggestGasPrice => ledger.suggestGasPrice
  | transfer request => ledger.transfer request
  | waitConfirmed tx => ledger.waitConfirmed tx

def event : (question : LedgerQuestion) → Except LedgerError question.Answer → LedgerEvent
  | balanceOf owner => .balanceOf owner
  | pendingNonce account => .pendingNonce account
  | chainId => .chainId
  | suggestGasPrice => .suggestGasPrice
  | transfer request => .transfer request
  | waitConfirmed tx => .waitConfirmed tx

end LedgerQuestion

/-- The ledger fails as the transport did, whose failure is the last that is heard. Otherwise it can only fail over
data of a contract. -/
structure Reported {α : Type} (log : List TransportEvent) (result : Except LedgerError α) : Prop where
  failed : ∀ event ∈ log, ∀ cause, event.failure? = some cause →
    log.getLast? = some event ∧ ∃ reason, result = .error reason ∧ cause.IsReportedAs reason
  answered : (∀ event ∈ log, event.failure? = none) → ∀ reason, result = .error reason →
    ∃ fault : Abi.Error, reason = .invalidResponse fault.message

namespace TransportError

variable {cause : TransportError} {reason : LedgerError}

theorem isReportedAs_iff : cause.IsReportedAs reason ↔ reason = cause.toLedger := by
  constructor
  · rintro (⟨code, certain⟩ | ⟨code, uncertain⟩ | _ | _ | _)
    · exact (if_pos (isAlwaysFailing_iff.mpr certain)).symm
    · exact (if_neg (mt isAlwaysFailing_iff.mp uncertain)).symm
    all_goals rfl
  · rintro rfl
    cases cause with
    | http text => exact .unreached text
    | rpc code text =>
      by_cases certain : SaysAlwaysFails text
      · rw [toLedger, LedgerError.ofSubmission, if_pos (isAlwaysFailing_iff.mpr certain)]
        exact .certain code certain
      · rw [toLedger, LedgerError.ofSubmission, if_neg (mt isAlwaysFailing_iff.mp certain)]
        exact .refused code certain
    | invalidResponse text => exact .unread text
    | timeout tx waited => exact .unconfirmed tx waited

theorem isReportedAs_toLedger (cause : TransportError) : cause.IsReportedAs cause.toLedger :=
  isReportedAs_iff.mpr rfl

/-- A refusal that is certain is known as such at once, and any other as soon as the user is told of it. -/
theorem toLedger_ofSubmission (cause : TransportError) :
    (ContractError.ofSubmission cause).toLedger = cause.toLedger := by
  cases cause with
  | rpc code text =>
    rw [ContractError.ofSubmission, toLedger, LedgerError.ofSubmission]
    split_ifs with certain
    · rfl
    · rw [ContractError.toLedger, toLedger, LedgerError.ofSubmission, if_neg certain]
  | _ => rfl

end TransportError

/-- A contract's own failures are about data, or about a token of the other kind. -/
theorem ContractError.toLedger_of_own {failure : ContractError} (certain : failure ≠ .wouldAlwaysFail)
    (unheard : ∀ cause, failure ≠ .transport cause) :
    (∃ text, failure.toLedger = .invalidResponse text) ∨ ∃ text, failure.toLedger = .rejected text := by
  cases failure with
  | transport cause => exact absurd rfl (unheard cause)
  | abi cause => exact .inl ⟨_, rfl⟩
  | wouldAlwaysFail => exact absurd rfl certain
  | amount cause => exact .inl ⟨_, rfl⟩
  | wrongKind capability expected actual => exact .inr ⟨_, rfl⟩

namespace Reported

variable {α β : Type} {log : List TransportEvent} {event : TransportEvent} {result : Except LedgerError α}

theorem of_failed (before : List TransportEvent) {cause : TransportError} (failed : event.failure? = some cause)
    (answered : ∀ earlier ∈ before, earlier.failure? = none) :
    Reported (before ++ [event]) (.error cause.toLedger : Except LedgerError α) where
  failed := by
    intro other listed reason fails
    rcases List.mem_append.mp listed with early | last
    · rw [answered other early] at fails
      cases fails
    · cases List.mem_singleton.mp last
      rw [failed] at fails
      cases fails
      exact ⟨List.getLast?_concat, _, rfl, cause.isReportedAs_toLedger⟩
  answered none_failed := by
    have impossible := none_failed event (List.mem_append_right _ (List.mem_singleton_self event))
    rw [failed] at impossible
    cases impossible

theorem of_answered (answered : ∀ event ∈ log, event.failure? = none)
    (own : ∀ reason, result = .error reason → ∃ fault : Abi.Error, reason = .invalidResponse fault.message) :
    Reported log result where
  failed event listed cause fails := by
    rw [answered event listed] at fails
    cases fails
  answered _ := own

theorem of_asked (heard : Except TransportError α → TransportEvent)
    (fails : ∀ reply, (heard reply).failure? = failureOf reply) (reply : Except TransportError α) :
    Reported [heard reply] (reply.mapError TransportError.toLedger) := by
  cases reply with
  | error cause => exact of_failed [] (fails _) (by simp)
  | ok value =>
    refine of_answered (List.forall_mem_singleton.mpr (fails _)) ?_
    rintro _ ⟨⟩

theorem map (reported : Reported log result) (f : α → β) : Reported log (result.map f) where
  failed event listed cause fails := by
    obtain ⟨last, reason, rfl, reads⟩ := reported.failed event listed cause fails
    exact ⟨last, reason, rfl, reads⟩
  answered none_failed reason failed := by
    apply reported.answered none_failed reason
    cases result with
    | error _ => exact congrArg Except.error (Except.error.inj failed)
    | ok _ => cases failed

theorem of_balance (contract : Address) (data : List UInt8) (reply : Except TransportError (List UInt8)) :
    Reported [.call contract data reply] (Erc20.balanceAnswer reply) := by
  cases reply with
  | error cause => exact of_failed [] rfl (by simp)
  | ok output =>
    refine of_answered (List.forall_mem_singleton.mpr rfl) ?_
    intro reason failed
    obtain ⟨own, unread, rfl⟩ := mapError_eq_error_iff.mp failed
    obtain ⟨fault, -, rfl⟩ := mapError_eq_error_iff.mp unread
    exact ⟨fault, rfl⟩

/-- Before a transfer reaches the transport, its amount can be too large for a word. -/
theorem of_transfer {contract : Address} {request : Transfer} {answer : Except LedgerError Submitted}
    (relays : Erc20.Relays contract (.transfer request answer) log) : Reported log answer := by
  cases answer with
  | ok taken =>
    rw [relays.of_taken]
    refine of_answered (by simp [TransportEvent.failure?, Erc20.estimateOf, failureOf]) ?_
    rintro _ ⟨⟩
  | error reason =>
    cases relays with
    | unencoded large =>
      exact of_answered (by simp) fun _ failed => ⟨.valueTooLarge, (Except.error.inj failed).symm⟩
    | unestimated fits cause =>
      rw [Erc20.submissionError, cause.toLedger_ofSubmission]
      exact of_failed [] rfl (by simp)
    | unsent fits gasLimit cause =>
      rw [Erc20.submissionError, cause.toLedger_ofSubmission]
      exact of_failed [_] rfl (List.forall_mem_singleton.mpr rfl)

theorem of_confirmation (tx : TxId) (reply : Except TransportError Receipt) :
    Reported [.waitForReceipt tx reply] ((reply.map Erc20.confirmationOf).mapError TransportError.toLedger) := by
  have passed_on : (reply.map Erc20.confirmationOf).mapError TransportError.toLedger =
      (reply.mapError TransportError.toLedger).map Erc20.confirmationOf := by
    cases reply <;> rfl
  rw [passed_on]
  exact (of_asked (.waitForReceipt tx) (fun _ => rfl) reply).map Erc20.confirmationOf

theorem of_relays {contract : Address} {question : LedgerQuestion} {answer : Except LedgerError question.Answer}
    (relays : Erc20.Relays contract (question.event answer) log) : Reported log answer := by
  cases question with
  | balanceOf owner =>
    obtain ⟨reply, rfl, rfl⟩ := relays.of_balanceOf
    exact of_balance _ _ reply
  | pendingNonce account =>
    obtain ⟨reply, rfl, rfl⟩ := relays.of_pendingNonce
    exact of_asked (.pendingNonce account) (fun _ => rfl) reply
  | chainId =>
    cases relays
    exact of_asked .networkId (fun _ => rfl) _
  | suggestGasPrice =>
    obtain ⟨reply, rfl, rfl⟩ := relays.of_suggestGasPrice
    exact of_asked .gasPrice (fun _ => rfl) reply
  | transfer request => exact of_transfer relays
  | waitConfirmed tx =>
    obtain ⟨reply, rfl, rfl⟩ := relays.of_waitConfirmed
    exact of_confirmation tx reply

/-- An error that is not about data is told exactly if the transport failed with what it stands for. -/
theorem error_iff (reported : Reported log result) {reason : LedgerError}
    (no_data : ∀ text, reason ≠ .invalidResponse text) : result = .error reason ↔
      ∃ event ∈ log, ∃ cause, event.failure? = some cause ∧ cause.IsReportedAs reason := by
  constructor
  · intro failed
    by_cases answered : ∀ event ∈ log, event.failure? = none
    · obtain ⟨fault, own⟩ := reported.answered answered reason failed
      exact absurd own (no_data _)
    · push Not at answered
      obtain ⟨event, listed, some_failure⟩ := answered
      obtain ⟨cause, fails⟩ := Option.ne_none_iff_exists'.mp some_failure
      obtain ⟨-, other, same, reads⟩ := reported.failed event listed cause fails
      rw [failed] at same
      cases same
      exact ⟨event, listed, cause, fails, reads⟩
  · rintro ⟨event, listed, cause, fails, reads⟩
    obtain ⟨-, other, same, told⟩ := reported.failed event listed cause fails
    rw [same, TransportError.isReportedAs_iff.mp told, TransportError.isReportedAs_iff.mp reads]

end Reported

namespace Erc20

variable {m : Type → Type} [Monad m] [LawfulMonad m] {trace : Trace m TransportEvent} {token : Erc20 m} {σ : Type}

theorem question_relays (heard : token.contract.transport.IsHeard trace) (question : LedgerQuestion) :
    trace.Emits (question.ask token.ledger).run fun log answer =>
      Relays token.contract.address (question.event answer) log := by
  have ledger := ledger_heard token heard
  have single {α : Type} {ask : m α} {event : α → LedgerEvent}
      (emits : (trace.through (Relays token.contract.address)).Emits ask fun events answer => events = [event answer]) :
      trace.Emits ask fun log answer => Relays token.contract.address (event answer) log := by
    refine trace.emits_mono emits ?_
    rintro log answer ⟨_, told, rfl⟩
    obtain ⟨part, rest, rfl, relays, ⟨⟩⟩ := told.of_cons
    rwa [List.append_nil]
  cases question with
  | balanceOf owner => exact single (ledger.balanceOf owner)
  | pendingNonce account => exact single (ledger.pendingNonce account)
  | chainId => exact single ledger.chainId
  | suggestGasPrice => exact single ledger.suggestGasPrice
  | transfer request => exact single (ledger.transfer request)
  | waitConfirmed tx => exact single (ledger.waitConfirmed tx)

/-- All ways of a failure of the transport end in the same error. Whatever the ledger is asked, it fails with this
error if the transport fails, and with no error for this cause otherwise. -/
theorem ledger_reports :
    (∀ cause : TransportError, (ContractError.transport cause).toLedger = cause.toLedger ∧
      (ContractError.ofSubmission cause).toLedger = cause.toLedger ∧
      ∀ reason, cause.IsReportedAs reason ↔ reason = cause.toLedger) ∧
    (∀ failure : ContractError, failure ≠ .wouldAlwaysFail → (∀ cause, failure ≠ .transport cause) →
      (∃ text, failure.toLedger = .invalidResponse text) ∨ ∃ text, failure.toLedger = .rejected text) ∧
    ∀ (transport : Transport (StateM σ)) (address : Address) (question : LedgerQuestion)
      (journal : List TransportEvent) (state : σ), ∃ log result after,
      ((question.ask (Erc20.mk ⟨address, transport.recorded⟩).ledger).run.run journal).run state =
        ((result, journal ++ log), after) ∧
      Reported log result ∧
      ∀ reason, (∀ text, reason ≠ .invalidResponse text) → (result = .error reason ↔
        ∃ event ∈ log, ∃ cause, event.failure? = some cause ∧ cause.IsReportedAs reason) := by
  refine ⟨fun cause => ⟨rfl, cause.toLedger_ofSubmission, fun _ => TransportError.isReportedAs_iff⟩,
    fun _ => ContractError.toLedger_of_own, ?_⟩
  intro transport address question journal state
  let token : Erc20 (StateT (List TransportEvent) (StateM σ)) := ⟨address, transport.recorded⟩
  have heard : token.contract.transport.IsHeard (.journal TransportEvent σ) := transport.recorded_heard
  obtain ⟨log, result, after, ran, relays⟩ := question_relays heard question journal state
  have reported := Reported.of_relays relays
  exact ⟨log, result, after, ran, reported, fun _ => reported.error_iff⟩

end Erc20

end TokenDesk
