import TokenDesk.Proofs.Command.CreateSheet
import TokenDesk.Proofs.Command.Creation
import TokenDesk.Proofs.Rpc.Transaction
import TokenDesk.Proofs.Token.Operation

/-! Sending the transaction that creates a token contract.

Once everything is read, the payer's account is unlocked, and a supply that is too large is
refused before the node is asked for the terms of a transaction. What is then sent, at most
once, is the bytecode and behind it what a strict reader reads as the parameters.
-/

set_option autoImplicit false

namespace TokenDesk

open Rpc (Call Quiet Session sendCall)

/-- The node gives no answer to a question for the terms of a transaction. -/
def Rpc.Call.LeavesOpen (call : Call) : Prop :=
  (call.method = "eth_gasPrice" ∧ ∃ cause, textOf "eth_gasPrice" parseAmount call.reply = .error cause) ∨
    call.method = "eth_estimateGas" ∧ ∃ cause, textOf "eth_estimateGas" parseWord call.reply = .error cause

/-! Submissions without a destination. -/

section
variable {payer : Address} {data : List UInt8} {events : List TransportEvent} {outcome : Except ContractError Sent}

/-- The gas price is asked for, then the gas limit, and then the transaction is sent, unless a question fails. -/
theorem Submission.creation_cases (made : Submission (.of payer) none data events outcome) :
    (∃ cause, events = [.gasPrice (.error cause)] ∧ ∃ reason, outcome = .error reason) ∨
    (∃ gasPrice cause, events = [.gasPrice (.ok gasPrice), .estimateGas payer none data (.error cause)] ∧
      ∃ reason, outcome = .error reason) ∨
    ∃ transaction gasPrice gasLimit answer, events = [.gasPrice (.ok gasPrice),
        .estimateGas payer none data (.ok gasLimit), .sendTransaction transaction answer] ∧
      transaction.sender = payer ∧ transaction.destination = none ∧ transaction.data = data := by
  -- No term is fixed, so each question is asked.
  cases made with
  | unpriced price =>
    cases price
    exact .inl ⟨_, rfl, _, rfl⟩
  | unlimited price limit =>
    cases price
    cases limit
    exact .inr (.inl ⟨_, _, rfl, _, rfl⟩)
  | sent answer price limit =>
    cases price
    cases limit
    exact .inr (.inr ⟨_, _, _, answer, rfl, rfl, rfl, rfl⟩)

theorem Submission.creation_calls (made : Submission (.of payer) none data events outcome) {url : String}
    {log : List HostEvent} (told : Told (Rpc.Wire url) events log) :
    ((∃ call ∈ Rpc.calls log, call.LeavesOpen) ∧ (Rpc.calls log).countP Call.isSend = 0 ∧
      ∃ reason, outcome = .error reason) ∨
    ∃ asked transaction reply, Rpc.calls log = asked ++ [sendCall transaction reply] ∧
      (∀ call ∈ asked, call.isSend = false) ∧
      transaction.sender = payer ∧ transaction.destination = none ∧ transaction.data = data := by
  rcases made.creation_cases with ⟨cause, rfl, failed⟩ | ⟨gasPrice, cause, rfl, failed⟩ |
    ⟨transaction, gasPrice, gasLimit, answer, rfl, known⟩
  · obtain ⟨pricing, _, rfl, ⟨reply, unanswered, priced⟩, ⟨⟩⟩ := told.of_cons
    rw [List.append_nil, priced.calls_eq]
    exact .inl ⟨⟨_, List.mem_singleton_self _, .inl ⟨rfl, cause, unanswered.symm⟩⟩, rfl, failed⟩
  · obtain ⟨pricing, _, rfl, ⟨first, -, priced⟩, later⟩ := told.of_cons
    obtain ⟨estimating, _, rfl, ⟨reply, unanswered, estimated⟩, ⟨⟩⟩ := later.of_cons
    rw [List.append_nil, Rpc.calls_append, priced.calls_eq, estimated.calls_eq]
    exact .inl ⟨⟨_, List.mem_cons_of_mem _ (List.mem_singleton_self _), .inr ⟨rfl, cause, unanswered.symm⟩⟩,
      rfl, failed⟩
  · obtain ⟨pricing, _, rfl, ⟨first, -, priced⟩, later⟩ := told.of_cons
    obtain ⟨estimating, _, rfl, ⟨second, -, estimated⟩, last⟩ := later.of_cons
    obtain ⟨sending, _, rfl, ⟨reply, -, sent⟩, ⟨⟩⟩ := last.of_cons
    rw [List.append_nil, Rpc.calls_append, Rpc.calls_append, priced.calls_eq, estimated.calls_eq, sent.calls_eq,
      ← List.append_assoc]
    refine .inr ⟨_, transaction, reply, rfl, ?_, known⟩
    simp [Call.isSend]

end

namespace CreateSheet

/-- Interchangeable units have a supply that is too large for a word. -/
def IsTooLarge (sheet : CreateSheet) : Prop :=
  sheet.kind = .fungible ∧ 2 ^ 256 ≤ sheet.params.totalSupply

/-- The lengths of the texts are told in a word each, in which those of all texts that a machine can hold find a
place. -/
structure IsShort (sheet : CreateSheet) : Prop where
  name : (Abi.Argument.utf8 sheet.params.name).length < 2 ^ 256
  symbol : (Abi.Argument.utf8 sheet.params.symbol).length < 2 ^ 256

/-- The strict reader reads the body as the parameters. Only interchangeable units have decimals and a supply. -/
inductive IsReadFrom (sheet : CreateSheet) (body : List UInt8) : Prop where
  | fungible {decimals : UInt8} : sheet.kind = .fungible → decimals.toNat = sheet.params.decimals.places →
      Abi.decode? [.string, .string, .uint8, .uint] body = some
        [.string sheet.params.name, .string sheet.params.symbol, .uint8 decimals, .uint sheet.params.totalSupply] →
      IsReadFrom sheet body
  | nonFungible : sheet.kind = .nonFungible →
      Abi.decode? [.string, .string] body = some [.string sheet.params.name, .string sheet.params.symbol] →
      IsReadFrom sheet body

/-- The call sends the payer's transaction, which names no contract that it goes to. Its data are the bytecode and the
parameters behind it. -/
def IsSentBy (sheet : CreateSheet) (call : Call) : Prop :=
  ∃ json transaction body, call.params = [json] ∧ Rpc.readTransaction? json = some transaction ∧
    json.member? "to" = none ∧ transaction.sender = sheet.payer ∧ transaction.data = sheet.bytecode ++ body ∧
    (sheet.IsShort → sheet.IsReadFrom body)

/-- What is left behind when a contract is to be created: the account is unlocked, and then one transaction is sent,
up to the first that fails. A supply that is too large fails before anything else is asked. -/
structure Attempts (sheet : CreateSheet) (log : List HostEvent) (result : Except Failure Unit) : Prop where
  sends : ∀ call ∈ Rpc.calls log, call.isSend → sheet.IsSentBy call
  once : (Rpc.calls log).countP Call.isSend ≤ 1
  unlocked : ∀ before event after, log = before ++ event :: after → ¬ event.IsTrial sheet.url sheet.payer →
    IsUnlocked sheet.payer before
  large : sheet.IsTooLarge → (∀ event ∈ log, event.IsTrial sheet.url sheet.payer) ∧
    ∃ cause, result = .error cause ∧ (IsUnlocked sheet.payer log →
      cause = .during .sendCreation (.contract (.abi .valueTooLarge)))
  unsent : (Rpc.calls log).countP Call.isSend = 0 → ¬ IsUnlocked sheet.payer log ∨ sheet.IsTooLarge ∨
    ∃ call ∈ Rpc.calls log, call.LeavesOpen
  sent : result = .ok () → (Rpc.calls log).countP Call.isSend = 1

variable {sheet : CreateSheet} {data : List UInt8} {unlocking sending more : List HostEvent} {attempts : Nat}
  {result : Except Failure Unit}

theorem isTooLarge_of_error {cause : ContractError}
    (refused : sheet.params.creationData sheet.kind sheet.bytecode = .error cause) :
    cause = .abi .valueTooLarge ∧ sheet.IsTooLarge := by
  obtain ⟨error, unencoded, rfl⟩ := mapError_eq_error_iff.mp refused
  obtain ⟨rfl, value, listed, large⟩ := Abi.callData_eq_error_iff.mp unencoded
  refine ⟨rfl, ?_⟩
  cases kind : sheet.kind with
  | fungible =>
    rw [kind] at listed
    have same : value = sheet.params.totalSupply := by simpa [TokenParams.arguments] using listed
    exact ⟨kind, same ▸ large⟩
  | nonFungible =>
    rw [kind] at listed
    simp [TokenParams.arguments] at listed

theorem not_isTooLarge_of_ok (encoded : sheet.params.creationData sheet.kind sheet.bytecode = .ok data) :
    ¬ sheet.IsTooLarge := by
  rintro ⟨kind, large⟩
  obtain ⟨fits, -⟩ := Abi.callData_eq_ok_iff.mp (mapError_eq_ok_iff.mp encoded)
  have supply_fits := fits (.uint sheet.params.totalSupply) (by simp [kind, TokenParams.arguments])
  exact Nat.not_lt.mpr large (of_decide_eq_true supply_fits)

theorem exists_body (encoded : sheet.params.creationData sheet.kind sheet.bytecode = .ok data) :
    ∃ body, data = sheet.bytecode ++ body ∧ (sheet.IsShort → sheet.IsReadFrom body) := by
  obtain ⟨fits, rfl⟩ := Abi.callData_eq_ok_iff.mp (mapError_eq_ok_iff.mp encoded)
  refine ⟨_, rfl, ?_⟩
  intro short
  -- The encoder looks at the numbers alone; how long texts are is what the sheet says.
  have encodable : ∀ argument ∈ sheet.params.arguments sheet.kind, argument.IsEncodable := by
    intro argument listed
    cases argument with
    | string text =>
      have either : text = sheet.params.name ∨ text = sheet.params.symbol := by
        cases kind : sheet.kind <;> simpa [kind, TokenParams.arguments] using listed
      rcases either with rfl | rfl
      · exact short.name
      · exact short.symbol
    | _ => exact fits _ listed
  have read := Abi.decode?_eq_some_iff.mpr ⟨rfl, encodable, rfl⟩
  cases kind : sheet.kind with
  | fungible =>
    rw [kind] at read
    refine .fungible kind ?_ read
    have small := sheet.params.decimals.places_le
    rw [UInt8.toNat_ofNat', Nat.mod_eq_of_lt (by omega)]
  | nonFungible =>
    rw [kind] at read
    exact .nonFungible kind read

theorem isSentBy_sendCall {transaction : Transaction} {reply : Except String HttpReply}
    (encoded : sheet.params.creationData sheet.kind sheet.bytecode = .ok transaction.data)
    (sender : transaction.sender = sheet.payer) (unaddressed : transaction.destination = none) :
    sheet.IsSentBy (sendCall transaction reply) := by
  obtain ⟨body, parts, read⟩ := exists_body encoded
  obtain ⟨-, destination, -⟩ := Rpc.member?_transactionJson transaction
  refine ⟨_, transaction, body, rfl, Rpc.readTransaction?_transactionJson transaction, ?_, sender, parts, read⟩
  rw [destination, unaddressed]
  rfl

theorem attempts_of_trials {cause : Failure} (trying : IsTrying sheet.url sheet.payer attempts unlocking)
    (stopped : ¬ IsUnlocked sheet.payer unlocking ∨
      sheet.IsTooLarge ∧ cause = .during .sendCreation (.contract (.abi .valueTooLarge))) :
    sheet.Attempts unlocking (.error cause) where
  sends _ listed send := absurd send (trying.not_isSend listed)
  once := by
    rw [Rpc.countP_isSend_eq_zero trying.sends_nothing]
    exact Nat.zero_le 1
  unlocked before event after parts other := by
    refine absurd (trying.trials event ?_) other
    rw [parts]
    simp
  large _ := ⟨trying.trials, cause, rfl, fun unlocked => (stopped.resolve_left (not_not_intro unlocked)).2⟩
  unsent _ := stopped.imp_right fun too_large => .inl too_large.1
  sent := nofun

theorem attempts_of_submission {url : String} {events : List TransportEvent} {outcome : Except ContractError Sent}
    (trying : IsTrying sheet.url sheet.payer attempts unlocking) (unlocked : IsUnlocked sheet.payer unlocking)
    (encoded : sheet.params.creationData sheet.kind sheet.bytecode = .ok data)
    (made : Submission (.of sheet.payer) none data events outcome) (told : Told (Rpc.Wire url) events sending)
    (quiet : Quiet more) (failed : ∀ reason, outcome = .error reason → ∃ cause, result = .error cause) :
    sheet.Attempts (unlocking ++ (sending ++ more)) result := by
  have count : (Rpc.calls (unlocking ++ (sending ++ more))).countP Call.isSend =
      (Rpc.calls sending).countP Call.isSend := trying.countP_isSend quiet
  have fits := not_isTooLarge_of_ok encoded
  -- Whatever is no trial comes behind all of them, and one of them unlocked the account.
  have behind : ∀ before event after, unlocking ++ (sending ++ more) = before ++ event :: after →
      ¬ event.IsTrial sheet.url sheet.payer → IsUnlocked sheet.payer before := by
    intro before event after parts other
    obtain ⟨between, rfl, -⟩ := Command.exists_behind parts fun listed => other (trying.trials event listed)
    exact isUnlocked_append_iff.mpr (.inl unlocked)
  rcases made.creation_calls told with ⟨⟨open_call, asked, leaves⟩, none_sent, reason, refused⟩ |
    ⟨asked, transaction, reply, calls_eq, silent, sender, unaddressed, rfl⟩
  · obtain ⟨cause, rfl⟩ := failed reason refused
    refine ⟨?_, by omega, behind, fun large => absurd large fits, ?_, nofun⟩
    · intro call listed send
      have here := trying.mem_of_send quiet listed send
      exact absurd send (List.countP_eq_zero.mp none_sent call here)
    · intro _
      exact .inr (.inr ⟨open_call, by simp [asked], leaves⟩)
  · have one_sent : (Rpc.calls sending).countP Call.isSend = 1 := by
      rw [calls_eq, List.countP_append, List.countP_eq_zero.mpr fun call listed => by simp [silent call listed]]
      rfl
    refine ⟨?_, by omega, behind, fun large => absurd large fits, by omega, fun _ => by omega⟩
    intro call listed send
    have here := trying.mem_of_send quiet listed send
    rw [calls_eq, List.mem_append, List.mem_singleton] at here
    rcases here with early | rfl
    · rw [silent call early] at send
      cases send
    · exact isSentBy_sendCall encoded sender unaddressed

end CreateSheet

namespace Desk

variable {m : Type → Type} [Monad m]

def createRead (desk : Desk m) (file : SettingsFile) (path : String) (request : CreateRequest) (sheet : CreateSheet) :
    Action m Unit := do
  desk.unlock sheet.payer
  let sent ← Action.ofContract .sendCreation
    (desk.transport.deploy (.of sheet.payer) sheet.kind sheet.bytecode sheet.params)
  let contract ← desk.awaitContract sent.tx
  desk.remember file path request contract

variable [LawfulMonad m]

theorem create_bind (desk : Desk m) (file : SettingsFile) (path : String) (request : CreateRequest) :
    desk.create file path request = desk.readCreation request >>= desk.createRead file path request := by
  rw [create_eq]
  unfold creation readCreation createRead
  cases desk.settings.symbol with
  | none => exact (bind_liftM_error _ _).trans (bind_liftM_error _ _).symm
  | some symbol => simp only [bind_assoc, pure_bind]

variable {trace : Trace m HostEvent} {desk : Desk m} (seen : desk.host.IsSeen trace)
include seen

theorem awaitContract_quiet (tx : TxId) : IsQuiet (trace.beside Session) (desk.awaitContract tx) :=
  .bind (desk.say_quiet seen _) fun _ => .bind (desk.receipt_quiet seen tx) fun _ => .bindExcept fun _ _ =>
    .bind (desk.say_quiet seen _) fun _ => .bind (desk.say_quiet seen _) fun _ => .pure _

theorem remember_quiet (file : SettingsFile) (path : String) (request : CreateRequest) (contract : Address) :
    IsQuiet (trace.beside Session) (desk.remember file path request contract) := by
  unfold remember
  cases file.remember? contract request.saves with
  | none => exact .pure _
  | some changed => exact .bind (.ofHost (SettingsFile.save_quiet seen path changed)) fun _ => desk.say_quiet seen _

theorem deploy_heard {payer : Address} {kind : TokenKind} {bytecode data : List UInt8} {params : TokenParams}
    (encoded : params.creationData kind bytecode = .ok data) :
    (trace.beside Session).Emits (desk.transport.deploy (.of payer) kind bytecode params).run fun log outcome =>
      ∃ events, Told (Rpc.Wire desk.settings.rpcUrl) events log ∧ Submission (.of payer) none data events outcome := by
  rw [Transport.deploy, encoded, bind_liftM_ok]
  exact Trace.emits_through_iff.mp (Transport.submit_heard (desk.transport_heard seen) (.of payer) none data)

theorem createRead_seen (file : SettingsFile) (path : String) (request : CreateRequest) {sheet : CreateSheet}
    (node : sheet.url = desk.settings.rpcUrl) :
    (trace.beside Session).Emits (desk.createRead file path request sheet).run sheet.Attempts := by
  have trials := desk.unlock_tries seen sheet.payer
  rw [← node] at trials
  refine (trace.beside Session).emits_bind_run trials ?_ ?_
  · intro unlocking cause ⟨trying, unlocked⟩
    exact CreateSheet.attempts_of_trials trying (.inl fun known => nomatch unlocked.mpr known)
  intro unlocking _ ⟨trying, unlocked⟩
  have unlocked := unlocked.mp rfl
  cases encoded : sheet.params.creationData sheet.kind sheet.bytecode with
  | error cause =>
    obtain ⟨rfl, too_large⟩ := CreateSheet.isTooLarge_of_error encoded
    -- The transport is never asked to send data that cannot be encoded.
    have refused : (trace.beside Session).Emits
        (desk.transport.deploy (.of sheet.payer) sheet.kind sheet.bytecode sheet.params).run
        fun log outcome => log = [] ∧ outcome = .error (.abi .valueTooLarge) := by
      rw [Transport.deploy, encoded, bind_liftM_error]
      exact (trace.beside Session).emits_throw_run ⟨rfl, rfl⟩
    refine (trace.beside Session).emits_bind_adapt_run refused ?_ ?_
    · rintro _ cause ⟨rfl, ⟨rfl⟩⟩
      rw [List.append_nil]
      exact CreateSheet.attempts_of_trials trying (.inr ⟨too_large, rfl⟩)
    · rintro _ sent ⟨-, ⟨⟩⟩
  | ok data =>
    refine (trace.beside Session).emits_bind_adapt_run (desk.deploy_heard seen encoded) ?_ ?_
    · intro sending cause ⟨events, told, made⟩
      have attempts : sheet.Attempts (unlocking ++ (sending ++ []))
          (.error (.during .sendCreation (.contract cause))) :=
        CreateSheet.attempts_of_submission trying unlocked encoded made told Rpc.quiet_nil fun _ _ => ⟨_, rfl⟩
      rwa [List.append_nil] at attempts
    · intro sending sent ⟨events, told, made⟩
      have others : IsQuiet (trace.beside Session) (desk.awaitContract sent.tx >>= desk.remember file path request) :=
        .bind (desk.awaitContract_quiet seen sent.tx) (desk.remember_quiet seen file path request)
      refine (trace.beside Session).emits_mono others fun more result quiet => ?_
      exact CreateSheet.attempts_of_submission trying unlocked encoded made told quiet nofun

theorem create_seen (file : SettingsFile) (path : String) (request : CreateRequest) :
    (trace.beside Session).Emits (desk.create file path request).run
      (Chained (ReadsCreateSheet desk.settings request) CreateSheet.Attempts) := by
  rw [create_bind]
  refine (trace.beside Session).emits_bind_run (desk.readCreation_seen seen request) (fun _ _ => .stopped) ?_
  intro log sheet reads
  have node : sheet.url = desk.settings.rpcUrl := by
    cases reads
    rfl
  exact (trace.beside Session).emits_mono (desk.createRead_seen seen file path request node) fun _ _ => .continued reads

end Desk

/-! The command. -/

def ReadsCreation (path : String) (flags : Flags) (request : CreateRequest) :
    List HostEvent → Except Failure CreateSheet → Prop :=
  Chained (LoadsSettings path flags) fun settings => ReadsCreateSheet settings request

/-- How a run goes that is to create a contract: nothing is requested before everything is read, and then the creation
is attempted. -/
inductive CreatesToken (path : String) (flags : Flags) (request : CreateRequest) (log : List HostEvent) :
    Except Failure Unit → Prop where
  | unread {cause : Failure} : ReadsCreation path flags request log (.error cause) → IsOffline log →
      CreatesToken path flags request log (.error cause)
  | attempted {read rest : List HostEvent} {sheet : CreateSheet} {result : Except Failure Unit} : log = read ++ rest →
      ReadsCreation path flags request read (.ok sheet) → IsOffline read → sheet.Attempts rest result →
        CreatesToken path flags request log result

/-- The decimals or the total are refused, or no text of the file is bytecode. -/
inductive CreateRequest.IsUnfit (request : CreateRequest) (log : List HostEvent) : Prop where
  | decimals : 18 < request.decimals.toNat → IsUnfit request log
  | total : (∀ decimals : Decimals, decimals.places = request.decimals.toNat →
      ¬ ∃ integer fraction, Amount.Writes decimals request.total.toList integer fraction) → IsUnfit request log
  | bytecode : (∀ text, .readText request.bytecodePath (.ok text) ∈ log → ¬ Bytecode.IsReadable text.toList) →
      IsUnfit request log

section
variable {path : String} {flags : Flags} {request : CreateRequest} {log : List HostEvent}

theorem ReadsCreation.isOffline {result : Except Failure CreateSheet}
    (reads : ReadsCreation path flags request log result) : IsOffline log :=
  Chained.closed reads .append LoadsSettings.isOffline ReadsCreateSheet.isOffline

theorem ReadsCreation.not_isUnfit {sheet : CreateSheet} {more : List HostEvent}
    (reads : ReadsCreation path flags request log (.ok sheet)) : ¬ request.IsUnfit (log ++ more) := by
  intro unfit
  cases reads with
  | continued _ read =>
    cases read with
    | @read _ params _ _ _ _ asks file _ =>
      cases unfit with
      | decimals large =>
        have fits := params.decimals.places_le
        rw [asks.decimals] at fits
        omega
      | total unwritten =>
        obtain ⟨integer, fraction, written, -⟩ := asks.total
        exact unwritten params.decimals asks.decimals ⟨integer, fraction, written⟩
      | bytecode unreadable =>
        cases file with
        | read spells => exact unreadable _ (by simp) (Bytecode.isReadable_iff.mpr ⟨_, spells⟩)

theorem CreatesToken.of_isUnfit {result : Except Failure Unit} (creates : CreatesToken path flags request log result)
    (unfit : request.IsUnfit log) : (∃ cause, result = .error cause) ∧ IsOffline log := by
  cases creates with
  | unread _ offline => exact ⟨⟨_, rfl⟩, offline⟩
  | attempted parts reads _ _ =>
    rw [parts] at unfit
    exact absurd unfit reads.not_isUnfit

end

theorem Command.create_seen {m : Type → Type} [Monad m] [LawfulMonad m] {trace : Trace m HostEvent} {host : Host m}
    (seen : host.IsSeen trace) (flags : Flags) (path : String) (request : CreateRequest) :
    trace.Emits ((Command.create request).run host flags path).run (CreatesToken path flags request) := by
  have acts (file : SettingsFile) (settings : Settings) :
      (trace.beside Session).Emits (Desk.create ⟨settings, host⟩ file path request).run
        (Chained (ReadsCreateSheet settings request) CreateSheet.Attempts) :=
    Desk.create_seen seen file path request
  rw [run]
  refine trace.emits_mono (Command.atDesk_seen seen acts) ?_
  intro log result chained
  rcases chained with unloaded | ⟨loads, unread | ⟨read, attempts⟩⟩
  · have reads : ReadsCreation path flags request _ _ := .stopped unloaded
    exact .unread reads reads.isOffline
  · have reads : ReadsCreation path flags request _ _ := .continued loads unread
    exact .unread reads reads.isOffline
  · have reads : ReadsCreation path flags request _ _ := .continued loads read
    rw [← List.append_assoc]
    exact .attempted rfl reads reads.isOffline attempts

variable {σ : Type}

/-- Whatever node, terminal and files there are, a contract is created from the bytecode that its file holds and the
parameters that the request asks for, by one transaction at most. What is unfit for this is refused before the web is
asked for anything. -/
theorem Command.create_exact (host : Host (StateM σ)) (flags : Flags) (path : String) (request : CreateRequest)
    (state : σ) :
    (∀ text, Bytecode.IsReadable text ↔ ∃ bytes, Bytecode.Spells text bytes) ∧
    ∃ result log after,
      (((Command.create request).run host.recorded flags path).run.run []).run state = ((result, log), after) ∧
        CreatesToken path flags request log result ∧
        (request.IsUnfit log → (∃ cause, result = .error cause) ∧ IsOffline log) := by
  obtain ⟨log, result, after, ran, creates⟩ := Command.create_seen host.recorded_seen flags path request [] state
  exact ⟨fun _ => Bytecode.isReadable_iff, result, log, after, ran, creates, creates.of_isUnfit⟩

end TokenDesk
