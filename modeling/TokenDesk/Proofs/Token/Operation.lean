import TokenDesk.Proofs.Abi.Reading
import TokenDesk.Proofs.Contract.Trace
import TokenDesk.Proofs.Results
import TokenDesk.Token.Creation

/-! What an operation asks of a transport.

All that changes the state of a contract, or makes one, is sent in the same way: after
the terms that are left open, and unless one of the questions fails. An operation whose
arguments cannot be encoded is not heard of.
-/

set_option autoImplicit false

namespace TokenDesk

inductive Operation where
  | transfer (destination : Address) (amount : Amount)
  | transferFrom (owner destination : Address) (id : Amount)
  | mint (destination : Address) (id : Amount)
  | mintWithUri (destination : Address) (id : Amount) (uri : String)
  | deploy (kind : TokenKind) (bytecode : List UInt8) (params : TokenParams)
  deriving DecidableEq, Repr

namespace Operation

def perform {m : Type → Type} [Monad m] (contract : Contract m) (options : SendOptions) :
    Operation → ExceptT ContractError m Sent
  | transfer destination amount => (Erc20.mk contract).transfer options destination amount
  | transferFrom owner destination id => (Erc721.mk contract).transferFrom options owner destination id
  | mint destination id => (Erc721.mk contract).mint options destination id
  | mintWithUri destination id uri => (Erc721.mk contract).mintWithUri options destination id uri
  | deploy kind bytecode params => contract.transport.deploy options kind bytecode params

def front : Operation → List UInt8
  | transfer _ _ => Abi.selector "transfer(address,uint256)"
  | transferFrom _ _ _ => Abi.selector "transferFrom(address,address,uint256)"
  | mint _ _ => Abi.selector "mint(address,uint256)"
  | mintWithUri _ _ _ => Abi.selector "mintWithTokenURI(address,uint256,string)"
  | deploy _ bytecode _ => bytecode

def arguments : Operation → List Abi.Argument
  | transfer destination amount => [.address destination, .uint amount]
  | transferFrom owner destination id => [.address owner, .address destination, .uint id]
  | mint destination id => [.address destination, .uint id]
  | mintWithUri destination id uri => [.address destination, .uint id, .string uri]
  | deploy kind _ params => params.arguments kind

/-- Whom the transaction is sent to. A new contract has no address before. -/
def destination (contract : Address) : Operation → Option Address
  | deploy _ _ _ => none
  | _ => some contract

end Operation

/-- What is asked of a transport for a transaction. -/
inductive Stage where
  | gasPrice
  | estimateGas
  | sendTransaction
  deriving DecidableEq, Repr

/-- The terms that are open are asked for, and the transaction is sent at the end. -/
def SendOptions.stages (options : SendOptions) : List Stage :=
  (if options.gasPrice.isNone then [.gasPrice] else []) ++ (if options.gasLimit.isNone then [.estimateGas] else []) ++
    [.sendTransaction]

namespace TransportEvent

def stage? : TransportEvent → Option Stage
  | gasPrice _ => some .gasPrice
  | estimateGas _ _ _ _ => some .estimateGas
  | sendTransaction _ _ => some .sendTransaction
  | _ => none

def isFailed : TransportEvent → Bool
  | gasPrice answer => !answer.isOk
  | estimateGas _ _ _ answer => !answer.isOk
  | sendTransaction _ answer => !answer.isOk
  | _ => false

def isSend (event : TransportEvent) : Bool :=
  event.stage? = some .sendTransaction

end TransportEvent

/-- The calls are those of the stages, one after another. A call that fails is the last one. -/
inductive Follows : List Stage → List TransportEvent → Prop where
  | done : Follows [] []
  | failed {stage : Stage} {later : List Stage} {event : TransportEvent} :
      event.stage? = some stage → event.isFailed → Follows (stage :: later) [event]
  | answered {stage : Stage} {later : List Stage} {event : TransportEvent} {log : List TransportEvent} :
      event.stage? = some stage → event.isFailed = false → Follows later log →
        Follows (stage :: later) (event :: log)

/-- The text has in it one of the words by which nodes tell that a transaction always fails. -/
def SaysAlwaysFails (text : String) : Prop :=
  ∃ signature ∈ LedgerError.signatures, signature.toList <:+: text.toList

/-- The node answered this to the estimate or to the transaction. -/
def IsRefusal (cause : TransportError) (event : TransportEvent) : Prop :=
  (∃ sender destination data, event = .estimateGas sender destination data (.error cause)) ∨
    ∃ transaction, event = .sendTransaction transaction (.error cause)

/-- A transaction with these data is sent on the given terms, as far as the node answers. -/
structure Submits (options : SendOptions) (destination : Option Address) (data : List UInt8)
    (log : List TransportEvent) (result : Except ContractError Sent) : Prop where
  calls : Follows options.stages log
  once : log.countP TransportEvent.isSend ≤ 1
  unestimated : ∀ sender target estimated cause, .estimateGas sender target estimated (.error cause) ∈ log →
    log.countP TransportEvent.isSend = 0
  request : ∀ transaction answer, .sendTransaction transaction answer ∈ log →
    transaction.sender = options.sender ∧ transaction.nonce = options.nonce ∧
      transaction.destination = destination ∧ transaction.data = data
  gasPrice : ∀ transaction answer, .sendTransaction transaction answer ∈ log →
    options.gasPrice = some transaction.gasPrice ∨
      options.gasPrice = none ∧ .gasPrice (.ok transaction.gasPrice) ∈ log
  gasLimit : ∀ transaction answer, .sendTransaction transaction answer ∈ log →
    options.gasLimit = some transaction.gasLimit ∨
      options.gasLimit = none ∧ .estimateGas options.sender destination data (.ok transaction.gasLimit) ∈ log
  reported : ∀ sent, result = .ok sent ↔ ∃ transaction, .sendTransaction transaction (.ok sent.tx) ∈ log ∧
    sent.gasPrice = transaction.gasPrice ∧ sent.gasLimit = transaction.gasLimit
  always_fails : result = .error .wouldAlwaysFail ↔
    ∃ code text, SaysAlwaysFails text ∧ ∃ event ∈ log, IsRefusal (.rpc code text) event

variable {options : SendOptions} {destination : Option Address} {data : List UInt8} {log : List TransportEvent}
  {result : Except ContractError Sent}

theorem isAlwaysFailing_iff {text : String} : LedgerError.isAlwaysFailing text ↔ SaysAlwaysFails text := by
  rw [LedgerError.isAlwaysFailing, List.any_eq_true]
  simp only [Text.contains_iff]
  rfl

theorem ofSubmission_eq_iff {cause : TransportError} : ContractError.ofSubmission cause = .wouldAlwaysFail ↔
    ∃ code text, cause = .rpc code text ∧ SaysAlwaysFails text := by
  cases cause with
  | rpc code text =>
    simp only [ContractError.ofSubmission, TransportError.rpc.injEq, ← isAlwaysFailing_iff]
    by_cases certain : LedgerError.isAlwaysFailing text
    · simp [certain]
    · simp [certain]
  | _ => simp [ContractError.ofSubmission]

section
variable {cause : TransportError}

theorem not_isRefusal_gasPrice {answer : Except TransportError Amount} : ¬ IsRefusal cause (.gasPrice answer) := by
  rintro (⟨_, _, _, ⟨⟩⟩ | ⟨_, ⟨⟩⟩)

theorem isRefusal_estimateGas_iff {sender : Address} {answer : Except TransportError UInt64} :
    IsRefusal cause (.estimateGas sender destination data answer) ↔ answer = .error cause := by
  constructor
  · rintro (⟨_, _, _, ⟨⟩⟩ | ⟨_, ⟨⟩⟩)
    rfl
  · rintro rfl
    exact .inl ⟨_, _, _, rfl⟩

theorem isRefusal_sendTransaction_iff {transaction : Transaction} {answer : Except TransportError TxId} :
    IsRefusal cause (.sendTransaction transaction answer) ↔ answer = .error cause := by
  constructor
  · rintro (⟨_, _, _, ⟨⟩⟩ | ⟨_, ⟨⟩⟩)
    rfl
  · rintro rfl
    exact .inr ⟨_, rfl⟩

end

/-! Calls in their order. -/

theorem Follows.countP_isSend_le {stages : List Stage} (follows : Follows stages log) :
    log.countP TransportEvent.isSend ≤ stages.count .sendTransaction := by
  -- A call counts exactly if its stage does, so both counts grow together, except behind a failure.
  have one {stage : Stage} {event : TransportEvent} (staged : event.stage? = some stage) :
      event.isSend = (stage == .sendTransaction) := by
    cases stage <;> simp [TransportEvent.isSend, staged]
  induction follows with
  | done => exact Nat.le_refl 0
  | failed staged _ =>
    rw [List.countP_cons, List.countP_nil, one staged, List.count_cons]
    omega
  | answered staged _ _ ih =>
    rw [List.countP_cons, one staged, List.count_cons]
    omega

theorem SendOptions.count_sendTransaction (options : SendOptions) : options.stages.count .sendTransaction = 1 := by
  rw [stages, List.count_append, List.count_append]
  cases options.gasPrice <;> cases options.gasLimit <;> rfl

namespace Quoted

variable {α : Type} {event : Except TransportError α → TransportEvent} {fixed : Option α}
  {events rest : List TransportEvent} {value : α} {cause : TransportError} {answer : Except TransportError α}

theorem of_mem {heard : TransportEvent} (quoted : Quoted event fixed events answer) (listed : heard ∈ events) :
    heard = event answer := by
  cases quoted with
  | fixed value => cases listed
  | asked answer => exact List.mem_singleton.mp listed

theorem mem_of_error (quoted : Quoted event fixed events (.error cause)) : event (.error cause) ∈ events := by
  cases quoted
  exact List.mem_singleton_self _

theorem known (quoted : Quoted event fixed events (.ok value)) :
    fixed = some value ∨ fixed = none ∧ event (.ok value) ∈ events := by
  cases quoted with
  | fixed value => exact .inl rfl
  | asked answer => exact .inr ⟨rfl, List.mem_singleton_self _⟩

section
variable {stage : Stage} {later : List Stage} (staged : ∀ answer, (event answer).stage? = some stage)
  (fails : ∀ answer, (event answer).isFailed = !answer.isOk)
include staged fails

theorem follows_failed (quoted : Quoted event fixed events (.error cause)) :
    Follows ((if fixed.isNone then [stage] else []) ++ later) events := by
  cases quoted
  exact .failed (staged _) (fails _)

theorem follows_answered (quoted : Quoted event fixed events (.ok value)) (follows : Follows later rest) :
    Follows ((if fixed.isNone then [stage] else []) ++ later) (events ++ rest) := by
  cases quoted with
  | fixed value => exact follows
  | asked answer => exact .answered (staged _) (fails _) follows

end

end Quoted

theorem follows_sendTransaction (transaction : Transaction) (answer : Except TransportError TxId) :
    Follows [.sendTransaction] [.sendTransaction transaction answer] := by
  cases answer with
  | error cause => exact .failed rfl rfl
  | ok tx => exact .answered rfl rfl .done

/-! Submissions. -/

theorem Submission.follows (made : Submission options destination data log result) : Follows options.stages log := by
  rw [SendOptions.stages, List.append_assoc]
  cases made with
  | unpriced price => exact price.follows_failed (fun _ => rfl) fun _ => rfl
  | unlimited price limit =>
    exact price.follows_answered (fun _ => rfl) (fun _ => rfl) (limit.follows_failed (fun _ => rfl) fun _ => rfl)
  | sent answer price limit =>
    exact price.follows_answered (fun _ => rfl) (fun _ => rfl)
      (limit.follows_answered (fun _ => rfl) (fun _ => rfl) (follows_sendTransaction _ answer))

section
variable {first second : List TransportEvent} {gasPrice : Amount} {gasLimit : UInt64} {heard : TransportEvent}
  (price : Quoted .gasPrice options.gasPrice first (.ok gasPrice))
include price

theorem Quoted.mem_estimate {answer : Except TransportError UInt64}
    (limit : Quoted (.estimateGas options.sender destination data) options.gasLimit second answer)
    (listed : heard ∈ first ++ second) :
    heard = .gasPrice (.ok gasPrice) ∨ heard = .estimateGas options.sender destination data answer := by
  rcases List.mem_append.mp listed with early | late
  · exact .inl (price.of_mem early)
  · exact .inr (limit.of_mem late)

theorem Quoted.mem_send {sent : TransportEvent}
    (limit : Quoted (.estimateGas options.sender destination data) options.gasLimit second (.ok gasLimit))
    (listed : heard ∈ first ++ (second ++ [sent])) :
    heard = .gasPrice (.ok gasPrice) ∨ heard = .estimateGas options.sender destination data (.ok gasLimit) ∨
      heard = sent := by
  rw [← List.append_assoc, List.mem_append, List.mem_singleton] at listed
  rcases listed with before | last
  · exact (price.mem_estimate limit before).imp_right .inl
  · exact .inr (.inr last)

end

namespace Submission

theorem request_of_mem (made : Submission options destination data log result) {transaction : Transaction}
    {answer : Except TransportError TxId} (listed : .sendTransaction transaction answer ∈ log) :
    (transaction.sender = options.sender ∧ transaction.nonce = options.nonce ∧
      transaction.destination = destination ∧ transaction.data = data) ∧
    (options.gasPrice = some transaction.gasPrice ∨
      options.gasPrice = none ∧ .gasPrice (.ok transaction.gasPrice) ∈ log) ∧
    (options.gasLimit = some transaction.gasLimit ∨
      options.gasLimit = none ∧
        .estimateGas options.sender destination data (.ok transaction.gasLimit) ∈ log) := by
  cases made with
  | unpriced price => nomatch price.of_mem listed
  | unlimited price limit => nomatch price.mem_estimate limit listed
  | sent _ price limit =>
    rcases price.mem_send limit listed with ⟨⟨⟩⟩ | ⟨⟨⟩⟩ | ⟨⟨⟩⟩
    refine ⟨⟨rfl, rfl, rfl, rfl⟩, price.known.imp_right fun asked => ?_, limit.known.imp_right fun asked => ?_⟩
    · exact ⟨asked.1, List.mem_append_left _ asked.2⟩
    · exact ⟨asked.1, List.mem_append_right _ (List.mem_append_left _ asked.2)⟩

theorem countP_isSend_eq_zero (made : Submission options destination data log result) {sender : Address}
    {target : Option Address} {estimated : List UInt8} {cause : TransportError}
    (failed : .estimateGas sender target estimated (.error cause) ∈ log) :
    log.countP TransportEvent.isSend = 0 := by
  rw [List.countP_eq_zero]
  intro event listed
  cases made with
  | unpriced price => nomatch price.of_mem failed
  | unlimited price limit =>
    obtain rfl | rfl := price.mem_estimate limit listed <;> simp [TransportEvent.isSend, TransportEvent.stage?]
  | sent _ price limit => nomatch price.mem_send limit failed

theorem result_eq_ok_iff (made : Submission options destination data log result) {sent : Sent} :
    result = .ok sent ↔ ∃ transaction, .sendTransaction transaction (.ok sent.tx) ∈ log ∧
      sent.gasPrice = transaction.gasPrice ∧ sent.gasLimit = transaction.gasLimit := by
  constructor
  · intro reported
    cases made with
    | unpriced _ => nomatch reported
    | unlimited _ _ => nomatch reported
    | sent answer _ _ =>
      cases answer with
      | error _ => nomatch reported
      | ok tx =>
        obtain ⟨⟩ := reported
        exact ⟨_, List.mem_append_right _ (List.mem_append_right _ (List.mem_singleton_self _)), rfl, rfl⟩
  · rintro ⟨transaction, listed, same_price, same_limit⟩
    cases made with
    | unpriced price => nomatch price.of_mem listed
    | unlimited price limit => nomatch price.mem_estimate limit listed
    | sent _ price limit =>
      rcases price.mem_send limit listed with ⟨⟨⟩⟩ | ⟨⟨⟩⟩ | ⟨⟨⟩⟩
      obtain ⟨tx, _, _⟩ := sent
      subst same_price same_limit
      rfl

theorem result_eq_wouldAlwaysFail_iff (made : Submission options destination data log result) :
    result = .error .wouldAlwaysFail ↔
      ∃ code text, SaysAlwaysFails text ∧ ∃ event ∈ log, IsRefusal (.rpc code text) event := by
  cases made with
  | unpriced price =>
    -- Nothing was asked but the price.
    constructor
    · rintro ⟨⟩
    · rintro ⟨code, text, _, event, listed, refused⟩
      rw [price.of_mem listed] at refused
      exact (not_isRefusal_gasPrice refused).elim
  | unlimited price limit =>
    rw [Except.error.injEq, ofSubmission_eq_iff]
    constructor
    · rintro ⟨code, text, rfl, certain⟩
      exact ⟨code, text, certain, _, List.mem_append_right _ limit.mem_of_error, isRefusal_estimateGas_iff.mpr rfl⟩
    · rintro ⟨code, text, certain, event, listed, refused⟩
      obtain rfl | rfl := price.mem_estimate limit listed
      · exact (not_isRefusal_gasPrice refused).elim
      · exact ⟨code, text, Except.error.inj (isRefusal_estimateGas_iff.mp refused), certain⟩
  | sent answer price limit =>
    -- The questions were answered, so only the transaction can have been refused.
    constructor
    · cases answer with
      | ok tx => rintro ⟨⟩
      | error cause =>
        intro failed
        obtain ⟨code, text, rfl, certain⟩ := ofSubmission_eq_iff.mp (Except.error.inj failed)
        exact ⟨code, text, certain, _, List.mem_append_right _ (List.mem_append_right _ (List.mem_singleton_self _)),
          isRefusal_sendTransaction_iff.mpr rfl⟩
    · rintro ⟨code, text, certain, event, listed, refused⟩
      obtain rfl | rfl | rfl := price.mem_send limit listed
      · exact (not_isRefusal_gasPrice refused).elim
      · nomatch isRefusal_estimateGas_iff.mp refused
      · obtain rfl := isRefusal_sendTransaction_iff.mp refused
        exact congrArg Except.error (ofSubmission_eq_iff.mpr ⟨code, text, rfl, certain⟩)

theorem submits (made : Submission options destination data log result) :
    Submits options destination data log result where
  calls := made.follows
  once := made.follows.countP_isSend_le.trans_eq options.count_sendTransaction
  unestimated _ _ _ _ := made.countP_isSend_eq_zero
  request _ _ listed := (made.request_of_mem listed).1
  gasPrice _ _ listed := (made.request_of_mem listed).2.1
  gasLimit _ _ listed := (made.request_of_mem listed).2.2
  reported _ := made.result_eq_ok_iff
  always_fails := made.result_eq_wouldAlwaysFail_iff

end Submission

namespace Operation

variable {m : Type → Type} [Monad m] {σ : Type}

theorem perform_eq (contract : Contract m) (options : SendOptions) (operation : Operation) :
    operation.perform contract options =
      liftM ((Abi.callData operation.front operation.arguments).mapError ContractError.abi) >>= fun data =>
        contract.transport.submit options (operation.destination contract.address) data := by
  cases operation <;> rfl

def Course (contract : Address) (options : SendOptions) (operation : Operation) (log : List TransportEvent)
    (result : Except ContractError Sent) : Prop :=
  ((∃ value, .uint value ∈ operation.arguments ∧ 2 ^ 256 ≤ value) ∧ log = [] ∧
      result = .error (.abi .valueTooLarge)) ∨
    ∃ data, Abi.callData operation.front operation.arguments = .ok data ∧
      Submits options (operation.destination contract) data log result

theorem perform_heard [LawfulMonad m] {trace : Trace m TransportEvent} {contract : Contract m}
    (heard : contract.transport.IsHeard trace) (options : SendOptions) (operation : Operation) :
    trace.Emits (operation.perform contract options).run (operation.Course contract.address options) := by
  -- All operations are one, up to what they encode and where they send it.
  rw [perform_eq]
  refine trace.emits_bind_liftM_run ?_ ?_
  · intro cause refused
    obtain ⟨error, unencoded, rfl⟩ := mapError_eq_error_iff.mp refused
    obtain ⟨rfl, large⟩ := Abi.callData_eq_error_iff.mp unencoded
    exact .inl ⟨large, rfl, rfl⟩
  · intro data encoded
    have encoded := mapError_eq_ok_iff.mp encoded
    refine trace.emits_mono (Transport.submit_heard heard options _ data) ?_
    intro log result made
    exact .inr ⟨data, encoded, made.submits⟩

/-- An operation asks for the terms that are open, in their order, and then sends one transaction, unless one of
the calls fails. -/
theorem perform_course (transport : Transport (StateM σ)) (address : Address) (options : SendOptions)
    (operation : Operation) (journal : List TransportEvent) (state : σ) :
    ∃ log result after,
      ((operation.perform ⟨address, transport.recorded⟩ options).run.run journal).run state =
        ((result, journal ++ log), after) ∧
      operation.Course address options log result := by
  let contract : Contract (StateT (List TransportEvent) (StateM σ)) := ⟨address, transport.recorded⟩
  have heard : contract.transport.IsHeard (.journal TransportEvent σ) := transport.recorded_heard
  exact perform_heard heard options operation journal state

end Operation

end TokenDesk
