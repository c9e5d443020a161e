import TokenDesk.Contract
import TokenDesk.Contract.Journal
import TokenDesk.Proofs.Trace

/-! What a transport hears when a contract is read, and when a transaction is sent.

Reading is one call. Sending asks for the terms that are left open, the gas price
before the gas limit, and ends with the transaction if each of them is answered.
-/

set_option autoImplicit false

namespace TokenDesk

variable {m : Type → Type} [Monad m]

/-- Each operation of the transport is heard as the event of that operation, and nothing else is. -/
structure Transport.IsHeard (trace : Trace m TransportEvent) (transport : Transport m) : Prop where
  call : ∀ contract data, trace.Emits (transport.call contract data).run fun events answer =>
    events = [.call contract data answer]
  estimateGas : ∀ sender destination data,
    trace.Emits (transport.estimateGas sender destination data).run fun events answer =>
      events = [.estimateGas sender destination data answer]
  sendTransaction : ∀ transaction, trace.Emits (transport.sendTransaction transaction).run fun events answer =>
    events = [.sendTransaction transaction answer]
  pendingNonce : ∀ account, trace.Emits (transport.pendingNonce account).run fun events answer =>
    events = [.pendingNonce account answer]
  networkId : trace.Emits transport.networkId.run fun events answer => events = [.networkId answer]
  gasPrice : trace.Emits transport.gasPrice.run fun events answer => events = [.gasPrice answer]
  waitForReceipt : ∀ tx, trace.Emits (transport.waitForReceipt tx).run fun events answer =>
    events = [.waitForReceipt tx answer]
  unlockAccount : ∀ account passphrase time,
    trace.Emits (transport.unlockAccount account passphrase time).run fun events answer =>
      events = [.unlockAccount account passphrase time answer]

theorem Transport.recorded_heard {σ : Type} (transport : Transport (StateM σ)) :
    transport.recorded.IsHeard (.journal TransportEvent σ) where
  call _ _ _ _ := ⟨_, _, _, rfl, rfl⟩
  estimateGas _ _ _ _ _ := ⟨_, _, _, rfl, rfl⟩
  sendTransaction _ _ _ := ⟨_, _, _, rfl, rfl⟩
  pendingNonce _ _ _ := ⟨_, _, _, rfl, rfl⟩
  networkId _ _ := ⟨_, _, _, rfl, rfl⟩
  gasPrice _ _ := ⟨_, _, _, rfl, rfl⟩
  waitForReceipt _ _ _ := ⟨_, _, _, rfl, rfl⟩
  unlockAccount _ _ _ _ _ := ⟨_, _, _, rfl, rfl⟩

def Contract.reading {α : Type} (read : List UInt8 → Except Abi.Error α)
    (answer : Except TransportError (List UInt8)) : Except ContractError α :=
  answer.mapError .transport >>= fun output => (read output).mapError .abi

variable [LawfulMonad m] {trace : Trace m TransportEvent}

theorem Contract.ask_heard (contract : Contract m) (heard : contract.transport.IsHeard trace) {α : Type}
    {signature : String} {arguments : List Abi.Argument} {data : List UInt8}
    (encoded : dataOf signature arguments = .ok data) (read : List UInt8 → Except Abi.Error α) :
    trace.Emits (contract.ask signature arguments read).run fun events result =>
      ∃ answer, events = [.call contract.address data answer] ∧ result = reading read answer := by
  rw [ask, encoded, bind_liftM_ok]
  refine trace.emits_bind_adapt_run (heard.call contract.address data) ?_ ?_
  · rintro _ cause rfl
    exact ⟨_, rfl, rfl⟩
  · rintro _ output rfl
    exact trace.emits_liftM_run ⟨_, rfl, rfl⟩

/-- A value that was fixed, or else asked for, with what was heard of the question. -/
inductive Quoted {α : Type} (event : Except TransportError α → TransportEvent) :
    (fixed : Option α) → List TransportEvent → Except TransportError α → Prop where
  | fixed (value : α) : Quoted event (some value) [] (.ok value)
  | asked (answer : Except TransportError α) : Quoted event none [event answer] answer

/-- What is heard of a transaction that was to be sent, with what came of it. -/
inductive Submission (options : SendOptions) (destination : Option Address) (data : List UInt8) :
    List TransportEvent → Except ContractError Sent → Prop where
  | unpriced {first : List TransportEvent} {cause : TransportError} :
      Quoted .gasPrice options.gasPrice first (.error cause) →
        Submission options destination data first (.error (.transport cause))
  | unlimited {first second : List TransportEvent} {gasPrice : Amount} {cause : TransportError} :
      Quoted .gasPrice options.gasPrice first (.ok gasPrice) →
      Quoted (.estimateGas options.sender destination data) options.gasLimit second (.error cause) →
        Submission options destination data (first ++ second) (.error (.ofSubmission cause))
  | sent {first second : List TransportEvent} {gasPrice : Amount} {gasLimit : UInt64}
      (answer : Except TransportError TxId) :
      Quoted .gasPrice options.gasPrice first (.ok gasPrice) →
      Quoted (.estimateGas options.sender destination data) options.gasLimit second (.ok gasLimit) →
        Submission options destination data
          (first ++ (second ++ [.sendTransaction
            { sender := options.sender, destination, data, nonce := options.nonce, gasPrice, gasLimit } answer]))
          ((answer.mapError .ofSubmission).map fun tx => { tx, gasPrice, gasLimit })

def quote {α : Type} (ask : ExceptT TransportError m α) (failure : TransportError → ContractError) :
    (fixed : Option α) → ExceptT ContractError m α
  | some value => pure value
  | none => ask.adapt failure

theorem quote_heard {α : Type} {event : Except TransportError α → TransportEvent}
    {ask : ExceptT TransportError m α} (heard : trace.Emits ask.run fun events answer => events = [event answer])
    (failure : TransportError → ContractError) (fixed : Option α) :
    trace.Emits (quote ask failure fixed).run fun events result =>
      ∃ answer, result = answer.mapError failure ∧ Quoted event fixed events answer := by
  cases fixed with
  | some value => exact trace.emits_pure_run ⟨.ok value, rfl, .fixed value⟩
  | none =>
    refine trace.emits_adapt_run (trace.emits_mono heard ?_)
    rintro _ answer rfl
    exact ⟨answer, rfl, .asked answer⟩

theorem Transport.submit_eq (transport : Transport m) (options : SendOptions) (destination : Option Address)
    (data : List UInt8) :
    transport.submit options destination data = do
      let gasPrice ← quote transport.gasPrice .transport options.gasPrice
      let gasLimit ← quote (transport.estimateGas options.sender destination data) .ofSubmission options.gasLimit
      let tx ← (transport.sendTransaction
        { sender := options.sender, destination, data, nonce := options.nonce, gasPrice, gasLimit }).adapt
          ContractError.ofSubmission
      return { tx, gasPrice, gasLimit } := by
  obtain ⟨sender, nonce, fixedPrice, fixedLimit⟩ := options
  cases fixedPrice <;> cases fixedLimit <;> simp [submit, quote]

theorem Transport.submit_heard {transport : Transport m} (heard : transport.IsHeard trace) (options : SendOptions)
    (destination : Option Address) (data : List UInt8) :
    trace.Emits (transport.submit options destination data).run (Submission options destination data) := by
  rw [submit_eq]
  refine trace.emits_bind_run (quote_heard heard.gasPrice .transport options.gasPrice) ?_ ?_
  · rintro first _ ⟨cause | _, ⟨rfl⟩, quoted⟩
    exact .unpriced quoted
  · rintro first _ ⟨_ | gasPrice, ⟨rfl⟩, priced⟩
    refine trace.emits_bind_run (quote_heard (heard.estimateGas options.sender destination data) .ofSubmission
      options.gasLimit) ?_ ?_
    · rintro second _ ⟨cause | _, ⟨rfl⟩, quoted⟩
      exact .unlimited priced quoted
    · rintro second _ ⟨_ | gasLimit, ⟨rfl⟩, limited⟩
      refine trace.emits_bind_adapt_run (heard.sendTransaction _) ?_ ?_
      · rintro _ cause rfl
        exact .sent (.error cause) priced limited
      · rintro _ tx rfl
        refine trace.emits_pure_run ?_
        rw [List.append_nil]
        exact .sent (.ok tx) priced limited

theorem Contract.transact_heard (contract : Contract m) (heard : contract.transport.IsHeard trace)
    (options : SendOptions) {signature : String} {arguments : List Abi.Argument} {data : List UInt8}
    (encoded : dataOf signature arguments = .ok data) :
    trace.Emits (contract.transact options signature arguments).run
      (Submission options (some contract.address) data) := by
  rw [transact, encoded, bind_liftM_ok]
  exact Transport.submit_heard heard _ _ _

end TokenDesk
