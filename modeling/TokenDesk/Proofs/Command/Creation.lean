import TokenDesk.Proofs.Command.Saving

/-! Creating a contract and remembering it.

A transaction is sent and its receipt is waited for. What is saved then depends on the
file that was loaded and on the contract that the receipt tells of, and on nothing else.
-/

set_option autoImplicit false

namespace TokenDesk

open Rpc (Session)

variable {m : Type → Type} [Monad m] [LawfulMonad m] {trace : Trace m HostEvent}

/-- A transaction that creates a contract was sent, and the node has a receipt by which it took effect and made the
contract. -/
def Creates (url : String) (log : List HostEvent) (contract : Address) : Prop :=
  ∃ (before sending between polling after : List HostEvent) (transaction : Transaction) (tx : TxId)
    (receipt : Receipt), log = before ++ (sending ++ (between ++ (polling ++ after))) ∧
      transaction.destination = none ∧ Rpc.Wire url (.sendTransaction transaction (.ok tx)) sending ∧
        Rpc.Polls url tx polling (.ok receipt) ∧ receipt.success = true ∧ receipt.contract = some contract

/-- A contract that was created is saved as the default one if there is no other, or if that is wanted. -/
def CreateRequest.Chooses (request : CreateRequest) (file : SettingsFile) (url : String) (log : List HostEvent)
    (choice : Option SettingsFile) : Prop :=
  ∃ contract, Creates url log contract ∧
    choice = if request.saves = true ∨ file.contractAddress.all String.isEmpty then
      some { file with contractAddress := some contract.checksummed } else none

namespace Creates

variable {url : String} {log : List HostEvent} {contract : Address}

theorem prepend (creates : Creates url log contract) (earlier : List HostEvent) :
    Creates url (earlier ++ log) contract := by
  obtain ⟨before, sending, between, polling, after, transaction, tx, receipt, rfl, created⟩ := creates
  exact ⟨earlier ++ before, sending, between, polling, after, transaction, tx, receipt,
    (List.append_assoc _ _ _).symm, created⟩

theorem append (creates : Creates url log contract) (more : List HostEvent) : Creates url (log ++ more) contract := by
  obtain ⟨before, sending, between, polling, after, transaction, tx, receipt, rfl, created⟩ := creates
  exact ⟨before, sending, between, polling, after ++ more, transaction, tx, receipt, by simp only [List.append_assoc],
    created⟩

theorem withoutChanges (creates : Creates url log contract) : Creates url (unchanging log) contract := by
  obtain ⟨before, sending, between, polling, after, transaction, tx, receipt, rfl, unaddressed, wire, polls, created⟩ :=
    creates
  have ⟨_, _, posts⟩ := wire
  refine ⟨unchanging before, sending, unchanging between, polling, unchanging after, transaction, tx, receipt, ?_,
    unaddressed, wire, polls, created⟩
  simp only [unchanging_append, posts.unchanging.unchanging_eq, polls.unchanging.unchanging_eq]

end Creates

theorem CreateRequest.Chooses.prepend {request : CreateRequest} {file : SettingsFile} {url : String}
    {log : List HostEvent} {choice : Option SettingsFile} (chooses : request.Chooses file url log choice)
    (earlier : List HostEvent) : request.Chooses file url (earlier ++ log) choice := by
  obtain ⟨contract, creates, same⟩ := chooses
  exact ⟨contract, creates.prepend earlier, same⟩

/-- An address that the action comes to is that of a contract which it created. -/
def IsCreating {n : Type → Type} [Monad n] (trace : Trace n HostEvent) (url : String)
    (action : ExceptT Failure n Address) : Prop :=
  trace.Emits action.run fun log result => ∀ contract, result = .ok contract → Creates url log contract

namespace IsCreating

variable {n : Type → Type} [Monad n] {trace : Trace n HostEvent} {url : String} {α : Type}

theorem throw (cause : Failure) : IsCreating trace url (MonadExcept.throw cause) :=
  trace.emits_throw_run (by rintro _ ⟨⟩)

theorem after {P : List HostEvent → Except Failure α → Prop} {first : ExceptT Failure n α}
    {next : α → ExceptT Failure n Address} (emits : trace.Emits first.run P)
    (others : ∀ value, IsCreating trace url (next value)) : IsCreating trace url (first >>= next) :=
  trace.emits_bind_run emits (by rintro _ _ _ _ ⟨⟩) fun earlier value _ =>
    trace.emits_mono (others value) fun _ _ creates contract same => (creates contract same).prepend earlier

theorem bindExcept [LawfulMonad n] {first : Except Failure α} {next : α → ExceptT Failure n Address}
    (others : ∀ value, IsCreating trace url (next value)) : IsCreating trace url (liftM first >>= next) :=
  trace.emits_bind_liftM_run (by rintro _ _ _ ⟨⟩) fun value _ => others value

end IsCreating

theorem createdContract_eq_ok_iff {tx : TxId} {receipt : Receipt} {contract : Address} :
    Desk.createdContract tx receipt = .ok contract ↔ receipt.success = true ∧ receipt.contract = some contract := by
  unfold Desk.createdContract
  cases receipt.success <;> cases receipt.contract <;> simp

namespace Desk

def awaitContract (desk : Desk m) (tx : TxId) : Action m Address := do
  desk.say ("Transaction waiting to be mined: " ++ tx.hex)
  let receipt ← desk.receipt tx
  let contract ← liftM (createdContract tx receipt)
  desk.say ("Contract deploy at address " ++ contract.checksummed)
  desk.say "Contract deploy success"
  return contract

/-- All that comes before the settings are looked at again. -/
def creation (desk : Desk m) (request : CreateRequest) : Action m Address := do
  let some symbol := desk.settings.symbol | throw (.refused .symbolUnset)
  let params ← liftM (TokenParams.ofTexts request.name symbol request.total request.decimals)
  let bytecode ← Action.ofHost (readBytecode desk.host.files request.bytecodePath)
  let payer ← desk.payer
  desk.unlock payer
  let sent ← Action.ofContract .sendCreation
    (desk.transport.deploy (.of payer) desk.settings.kind bytecode params)
  desk.awaitContract sent.tx

def remember (desk : Desk m) (file : SettingsFile) (settingsPath : String) (request : CreateRequest)
    (contract : Address) : Action m Unit := do
  if let some changed := file.remember? contract request.saves then
    Action.ofHost (changed.save desk.host.files settingsPath)
    desk.say ("Contract " ++ contract.checksummed ++ " saved as the default contract")

theorem create_eq (desk : Desk m) (file : SettingsFile) (path : String) (request : CreateRequest) :
    desk.create file path request = desk.creation request >>= desk.remember file path request := by
  unfold create creation awaitContract
  cases desk.settings.symbol with
  | none => exact (bind_liftM_error _ _).symm
  | some symbol =>
    simp only [bind_assoc, pure_bind]
    rfl

variable {desk : Desk m} (seen : desk.host.IsSeen trace)
include seen

theorem deploy_sends (payer : Address) (kind : TokenKind) (bytecode : List UInt8) (params : TokenParams) :
    (trace.beside Session).Emits (desk.transport.deploy (.of payer) kind bytecode params).run fun log result =>
      ∀ sent, result = .ok sent → ∃ before sending transaction, log = before ++ sending ∧
        transaction.destination = none ∧
          Rpc.Wire desk.settings.rpcUrl (.sendTransaction transaction (.ok sent.tx)) sending := by
  refine (trace.beside Session).emits_bind_liftM_run (by rintro _ _ _ ⟨⟩) fun data _ => ?_
  refine (trace.beside Session).emits_mono (Trace.emits_through_iff.mp
    (Transport.submit_heard (desk.transport_heard seen) (.of payer) none data)) ?_
  rintro log result ⟨events, told, made⟩ sent same
  cases made with
  | unpriced _ => cases same
  | unlimited _ _ => cases same
  | sent answer _ _ =>
    cases answer with
    | error cause => cases same
    | ok tx =>
      cases same
      rw [← List.append_assoc] at told
      obtain ⟨asking, sending, rfl, -, told_sent⟩ := told.of_append
      obtain ⟨part, _, rfl, wire, ⟨⟩⟩ := told_sent.of_cons
      exact ⟨asking, part, _, by rw [List.append_nil], rfl, wire⟩

theorem receipt_polls (tx : TxId) : (trace.beside Session).Emits (desk.receipt tx).run fun log result =>
    ∀ receipt, result = .ok receipt → Rpc.Polls desk.settings.rpcUrl tx log (.ok receipt) := by
  refine (trace.beside Session).emits_adapt_run ((trace.beside Session).emits_mono (Trace.emits_through_iff.mp
    ((desk.transport_heard seen).waitForReceipt tx)) ?_)
  rintro log answer ⟨_, told, rfl⟩ receipt same
  obtain ⟨part, _, rfl, polls, ⟨⟩⟩ := told.of_cons
  rw [List.append_nil, ← mapError_eq_ok_iff.mp same]
  exact polls

theorem awaitContract_seen (tx : TxId) : (trace.beside Session).Emits (desk.awaitContract tx).run fun log result =>
    ∀ contract, result = .ok contract → ∃ between polling after receipt, log = between ++ (polling ++ after) ∧
      Rpc.Polls desk.settings.rpcUrl tx polling (.ok receipt) ∧ receipt.success = true ∧
        receipt.contract = some contract := by
  refine (trace.beside Session).emits_bind_run (desk.say_unchanging seen _) (by rintro _ _ _ _ ⟨⟩)
    fun between _ _ => ?_
  refine (trace.beside Session).emits_bind_run (desk.receipt_polls seen tx) (by rintro _ _ _ _ ⟨⟩)
    fun polling receipt polls => ?_
  refine (trace.beside Session).emits_bind_liftM_run (by rintro _ _ _ ⟨⟩) fun contract created => ?_
  have told : (trace.beside Session).Emits (do
      desk.say ("Contract deploy at address " ++ contract.checksummed)
      desk.say "Contract deploy success"
      return contract : Action m Address).run fun _ result => result = .ok contract :=
    (trace.beside Session).emits_bind_run (desk.say_unchanging seen _) (by rintro _ _ ⟨-, ⟨⟩⟩) fun _ _ _ =>
      (trace.beside Session).emits_bind_run (desk.say_unchanging seen _) (by rintro _ _ ⟨-, ⟨⟩⟩) fun _ _ _ =>
        (trace.beside Session).emits_pure_run rfl
  refine (trace.beside Session).emits_mono told ?_
  rintro after _ rfl _ ⟨⟩
  exact ⟨between, polling, after, receipt, rfl, polls receipt rfl, createdContract_eq_ok_iff.mp created⟩

theorem creation_isCreating (request : CreateRequest) :
    IsCreating (trace.beside Session) desk.settings.rpcUrl (desk.creation request) := by
  have sent (payer : Address) (bytecode : List UInt8) (params : TokenParams) :
      IsCreating (trace.beside Session) desk.settings.rpcUrl (do
        let sent ← Action.ofContract .sendCreation
          (desk.transport.deploy (.of payer) desk.settings.kind bytecode params)
        desk.awaitContract sent.tx) := by
    refine (trace.beside Session).emits_bind_adapt_run (desk.deploy_sends seen payer _ bytecode params)
      (by rintro _ _ _ _ ⟨⟩) fun log sent sends => ?_
    obtain ⟨before, sending, transaction, rfl, unaddressed, wire⟩ := sends sent rfl
    refine (trace.beside Session).emits_mono (desk.awaitContract_seen seen sent.tx) ?_
    rintro more result awaited contract same
    obtain ⟨between, polling, after, receipt, rfl, polls, created⟩ := awaited contract same
    exact ⟨before, sending, between, polling, after, transaction, sent.tx, receipt, List.append_assoc _ _ _,
      unaddressed, wire, polls, created⟩
  unfold creation
  cases desk.settings.symbol with
  | none => exact .throw _
  | some symbol =>
    exact .bindExcept fun params => .after (IsQuiet.ofHost (desk.readBytecode_quiet seen _)) fun bytecode =>
      .bindExcept fun payer => .after (desk.unlock_seen seen payer) fun _ => sent payer bytecode params

theorem create_rewrites (file : SettingsFile) (path : String) (request : CreateRequest) :
    (trace.beside Session).Emits (desk.create file path request).run
      (Rewrites path (request.Chooses file desk.settings.rpcUrl)) := by
  have creating : (trace.beside Session).Emits (desk.creation request).run fun log result =>
      Unchanging log ∧ ∀ contract, result = .ok contract → Creates desk.settings.rpcUrl log contract := by
    refine (trace.beside Session).emits_mono (Trace.emits_of_unwritten
      (desk.readOnly.creation_isCreating (Host.readOnly_seen seen) request)) ?_
    rintro _ result ⟨events, rfl, creates⟩
    exact ⟨unchanging_unchanging, fun contract same => (creates contract same).withoutChanges⟩
  rw [create_eq]
  refine rewrites_bind creating fun contract => ?_
  unfold remember SettingsFile.remember?
  by_cases wanted : (request.saves || file.contractAddress.all String.isEmpty) = true
  · rw [if_pos wanted]
    refine rewrites_save (Trace.emits_beside_lift (SettingsFile.save_seen seen path _)) (desk.say_unchanging seen _) ?_
    intro log earlier creates
    exact ⟨contract, creates.append log, (if_pos (Bool.or_eq_true _ _ ▸ wanted)).symm⟩
  · rw [if_neg wanted]
    refine rewrites_keep ((trace.beside Session).emits_pure_run .nil) ?_
    intro log earlier creates
    exact ⟨contract, creates.append log, (if_neg (Bool.or_eq_true _ _ ▸ wanted)).symm⟩

end Desk

end TokenDesk
