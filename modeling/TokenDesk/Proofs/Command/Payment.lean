import TokenDesk.Proofs.Amount.Rendering
import TokenDesk.Proofs.Command.BatchSheet
import TokenDesk.Proofs.Command.Guard
import TokenDesk.Proofs.Token.Operation
import TokenDesk.Proofs.Token.Relay

/-! Paying one address an amount of interchangeable units.

The amount is decided by the text and by two answers of the node, the decimals and the
balance of the payer. All of this is known before anybody is asked to unlock the account.
What is then sent moves this amount and nothing else, and what is told of it reads as the
amount.
-/

set_option autoImplicit false

namespace TokenDesk

open Rpc (Call IsSilent Quiet Session sendCall)

structure PaySheet where
  contract : Address
  payer : Address
  destination : Address
  decimals : Decimals
  symbol : String
  balance : Amount

namespace PaySheet

/-- The amount that a text stands for: the whole balance by its word, and else the value under the decimals. -/
inductive Means (sheet : PaySheet) (text : String) : Amount → Prop where
  | whole : text.toList.map Char.toLower = "all".toList → Means sheet text sheet.balance
  | value {amount : Amount} : text.toList.map Char.toLower ≠ "all".toList →
      Amount.parse sheet.decimals text = .ok amount → Means sheet text amount

/-- The amount that a text asks to pay can be paid. -/
structure Pays (sheet : PaySheet) (text : String) (amount : Amount) : Prop where
  meant : sheet.Means text amount
  positive : 0 < amount
  covered : amount ≤ sheet.balance

/-- Why a text asks for nothing that can be paid. -/
inductive Refuses (sheet : PaySheet) (text : String) : Failure → Prop where
  | meaningless {cause : AmountError} : text.toList.map Char.toLower ≠ "all".toList →
      Amount.parse sheet.decimals text = .error cause →
      Refuses sheet text (.during (.parsePayment text) (.amount cause))
  | zero : sheet.Means text 0 → Refuses sheet text (.refused .zeroPayment)
  | uncovered {amount : Amount} : sheet.Means text amount → sheet.balance < amount →
      Refuses sheet text (.refused (.balanceTooLow sheet.decimals sheet.balance amount))

/-- The amount that a text asks for, before it is known whether it can be paid. -/
def asked (sheet : PaySheet) (text : String) : Except Failure Amount :=
  if Desk.isWholeBalance text then .ok sheet.balance
  else (Amount.parse sheet.decimals text).mapError fun cause => .during (.parsePayment text) (.amount cause)

def checked (sheet : PaySheet) (amount : Amount) : Except Failure Amount :=
  if amount = 0 then .error (.refused .zeroPayment)
  else if sheet.balance < amount then .error (.refused (.balanceTooLow sheet.decimals sheet.balance amount))
  else .ok amount

variable {sheet : PaySheet} {text : String} {amount : Amount}

theorem paymentOf_eq (sheet : PaySheet) (text : String) :
    Desk.paymentOf text sheet.balance sheet.decimals = sheet.asked text >>= sheet.checked := by
  have same (amount : Amount) : sheet.checked amount = (do
      if amount = 0 then throw (.refused .zeroPayment)
      if sheet.balance < amount then throw (.refused (.balanceTooLow sheet.decimals sheet.balance amount))
      return amount) := by
    unfold checked
    split
    · rfl
    · split <;> rfl
  -- The checks stand behind each of the two ways to read a text; here they are one step behind both.
  rw [funext same]
  unfold Desk.paymentOf asked
  split <;> rfl

theorem isWholeBalance_iff : Desk.isWholeBalance text ↔ text.toList.map Char.toLower = "all".toList := by
  rw [Desk.isWholeBalance, decide_eq_true_iff]
  rfl

theorem asked_eq_ok_iff : sheet.asked text = .ok amount ↔ sheet.Means text amount := by
  unfold asked
  by_cases whole : Desk.isWholeBalance text
  · rw [if_pos whole]
    constructor
    · intro same
      cases same
      exact .whole (isWholeBalance_iff.mp whole)
    · intro means
      cases means with
      | whole => rfl
      | value other => exact absurd (isWholeBalance_iff.mp whole) other
  · rw [if_neg whole, mapError_eq_ok_iff]
    constructor
    · exact .value (isWholeBalance_iff.not.mp whole)
    · intro means
      cases means with
      | whole same => exact absurd (isWholeBalance_iff.mpr same) whole
      | value _ read => exact read

theorem checked_eq_ok_iff {meant : Amount} :
    sheet.checked meant = .ok amount ↔ meant = amount ∧ 0 < amount ∧ amount ≤ sheet.balance := by
  unfold checked
  by_cases zero : meant = 0
  · rw [if_pos zero]
    exact iff_of_false nofun fun ⟨same, positive, _⟩ => positive.ne' (same ▸ zero)
  · rw [if_neg zero]
    by_cases uncovered : sheet.balance < meant
    · rw [if_pos uncovered]
      exact iff_of_false nofun fun ⟨same, _, covered⟩ => Nat.not_lt.mpr covered (same ▸ uncovered)
    · rw [if_neg uncovered]
      constructor
      · intro same
        cases same
        exact ⟨rfl, Nat.pos_of_ne_zero zero, Nat.le_of_not_lt uncovered⟩
      · intro known
        rw [known.1]

theorem paymentOf_eq_ok_iff :
    Desk.paymentOf text sheet.balance sheet.decimals = .ok amount ↔ sheet.Pays text amount := by
  rw [paymentOf_eq, bind_eq_ok_iff]
  constructor
  · intro ⟨meant, read, known⟩
    obtain ⟨rfl, positive, covered⟩ := checked_eq_ok_iff.mp known
    exact ⟨asked_eq_ok_iff.mp read, positive, covered⟩
  · intro pays
    exact ⟨amount, asked_eq_ok_iff.mpr pays.meant, checked_eq_ok_iff.mpr ⟨rfl, pays.positive, pays.covered⟩⟩

theorem paymentOf_eq_error_iff {cause : Failure} :
    Desk.paymentOf text sheet.balance sheet.decimals = .error cause ↔ sheet.Refuses text cause := by
  rw [paymentOf_eq, bind_eq_error_iff]
  constructor
  · rintro (unread | ⟨meant, read, refused⟩)
    · unfold asked at unread
      split_ifs at unread with whole
      obtain ⟨fault, unparsed, rfl⟩ := mapError_eq_error_iff.mp unread
      exact .meaningless (isWholeBalance_iff.not.mp whole) unparsed
    · have means := asked_eq_ok_iff.mp read
      unfold checked at refused
      split_ifs at refused with zero uncovered
      · cases refused
        exact .zero (zero ▸ means)
      · cases refused
        exact .uncovered means uncovered
  · intro refuses
    cases refuses with
    | meaningless other unparsed =>
      refine .inl ?_
      rw [asked, if_neg (isWholeBalance_iff.not.mpr other), unparsed]
      rfl
    | zero means => exact .inr ⟨0, asked_eq_ok_iff.mpr means, if_pos rfl⟩
    | @uncovered amount means uncovered =>
      refine .inr ⟨amount, asked_eq_ok_iff.mpr means, ?_⟩
      rw [checked, if_neg (Nat.ne_zero_of_lt uncovered), if_pos uncovered]

end PaySheet

/-! Reading. -/

def ReadsTag (settings : Settings) (log : List HostEvent) (result : Except Failure (Option ChainId)) : Prop :=
  IsSilent log ∧ ∀ tagged?, result = .ok tagged? → ∀ chain ∈ tagged?,
    settings.blockchain.hasTaggedAddresses ∧ Rpc.Wire settings.rpcUrl (.networkId (.ok chain)) log

def ReadsDestination (settings : Settings) (text : String) : List HostEvent → Except Failure Address → Prop :=
  Chained (ReadsTag settings) fun tagged? log result =>
    log = [] ∧ result = (Address.parseDestination tagged? text).mapError
      fun cause => .during (.parseAddress text) (.address cause)

def ReadsBalance (url : String) (contract owner : Address) (log : List HostEvent) (result : Except Failure Amount) :
    Prop :=
  ∃ reply, result = (Contract.reading Abi.decodeUint (Rpc.textOf "eth_call" Rpc.parseBytes reply)).mapError
      (fun cause => .during (.readBalance owner) (.contract cause)) ∧
    Rpc.Posts url "eth_call" [Rpc.callJson contract (Erc20.balanceData owner), .string "pending"] reply log

def ReadsPayment (settings : Settings) (text : String) (contract payer : Address) :
    List HostEvent → Except Failure PaySheet → Prop :=
  Chained (ReadsDestination settings text) fun destination =>
    Chained (ReadsContract settings.rpcUrl .readDecimals contract "decimals()" decimalsIn) fun decimals =>
      Chained (ReadsContract settings.rpcUrl .readSymbol contract "symbol()" (Contract.reading Abi.decodeString))
        fun symbol => Chained (ReadsBalance settings.rpcUrl contract payer) fun balance log result =>
          log = [] ∧ result = .ok { contract, payer, destination, decimals, symbol, balance }

def ReadsPaySheet (settings : Settings) (text : String) : List HostEvent → Except Failure PaySheet → Prop :=
  Chained (NamesParties settings) fun (contract, payer) => ReadsPayment settings text contract payer

theorem ReadsBalance.isSilent {url : String} {contract owner : Address} {log : List HostEvent}
    {result : Except Failure Amount} (reads : ReadsBalance url contract owner log result) : IsSilent log := by
  obtain ⟨reply, -, posts⟩ := reads
  exact ⟨posts.quiet (by decide), posts.printed_eq_nil⟩

theorem ReadsBalance.lt {url : String} {contract owner : Address} {log : List HostEvent} {balance : Amount}
    (reads : ReadsBalance url contract owner log (.ok balance)) : balance < 2 ^ 256 := by
  obtain ⟨reply, same, -⟩ := reads
  have read := mapError_eq_ok_iff.mp same.symm
  apply Erc20.lt_of_balanceAnswer
  rw [Erc20.balanceAnswer, read]
  rfl

theorem ReadsPaySheet.isSilent {settings : Settings} {text : String} {log : List HostEvent}
    {result : Except Failure PaySheet} (reads : ReadsPaySheet settings text log result) : IsSilent log := by
  have nothing {part : List HostEvent} (same : part = []) : IsSilent part := by
    rw [same]
    exact .nil
  refine Chained.closed reads .append (fun names => nothing names.1) fun payment => ?_
  refine Chained.closed payment .append (fun reads => Chained.closed reads .append And.left
    fun last => nothing last.1) fun later => ?_
  refine Chained.closed later .append ReadsContract.isSilent fun later => ?_
  refine Chained.closed later .append ReadsContract.isSilent fun later => ?_
  exact Chained.closed later .append ReadsBalance.isSilent fun last => nothing last.1

theorem ReadsPayment.balance_lt {settings : Settings} {text : String} {contract payer : Address}
    {log : List HostEvent} {sheet : PaySheet} (reads : ReadsPayment settings text contract payer log (.ok sheet)) :
    sheet.balance < 2 ^ 256 := by
  obtain _ | ⟨-, _ | ⟨-, _ | ⟨-, _ | ⟨balance, -, same⟩⟩⟩⟩ := reads
  cases same
  exact balance.lt

namespace Desk

variable {m : Type → Type} [Monad m]

def readPayment (desk : Desk m) (text : String) (contract payer : Address) : Action m PaySheet := do
  let destination ← desk.parseAddress text
  let decimals ← Action.ofContract .readDecimals (Erc20.mk (desk.contractAt contract)).decimals
  let symbol ← Action.ofContract .readSymbol (desk.contractAt contract).symbol
  let balance ← Action.ofContract (.readBalance payer) ((desk.contractAt contract).balanceOf payer)
  return { contract, payer, destination, decimals, symbol, balance }

variable [LawfulMonad m] {trace : Trace m HostEvent} {desk : Desk m} (seen : desk.host.IsSeen trace)
include seen

theorem readsTag_seen (tagged : desk.settings.blockchain.hasTaggedAddresses) :
    (trace.beside Session).Emits (some <$> desk.chainId).run (ReadsTag desk.settings) := by
  have asked := desk.readsChain_seen seen
  rw [batchChain, if_pos tagged] at asked
  rw [map_eq_pure_bind]
  refine (trace.beside Session).emits_bind_run asked ?_ ?_
  · intro log cause reads
    refine ⟨reads.isSilent, ?_⟩
    intro tagged? same
    cases same
  · intro log chain reads
    refine (trace.beside Session).emits_pure_run ?_
    rw [List.append_nil]
    refine ⟨reads.isSilent, ?_⟩
    rw [ReadsChain, if_pos tagged] at reads
    obtain ⟨answer, wire, same⟩ := reads
    rw [mapError_eq_ok_iff.mp same.symm] at wire
    rintro _ ⟨⟩ _ ⟨⟩
    exact ⟨tagged, wire⟩

theorem readsDestination_seen (text : String) :
    (trace.beside Session).Emits (desk.parseAddress text).run (ReadsDestination desk.settings text) := by
  have untagged : ReadsTag desk.settings [] (.ok none) := ⟨.nil, by rintro _ ⟨⟩; nofun⟩
  rw [parseAddress]
  cases hex : Address.parseHex text with
  | ok address =>
    have read : Address.parseDestination none text = .ok address := Address.parseDestination_eq_ok_iff.mpr (.inl hex)
    exact (trace.beside Session).emits_pure_run (.continued untagged ⟨rfl, by rw [read]; rfl⟩)
  | error cause =>
    dsimp only
    split_ifs with asks
    · exact (trace.beside Session).emits_chained (desk.readsTag_seen seen (Bool.and_eq_true_iff.mp asks).1)
        fun tagged? => (trace.beside Session).emits_liftM_run ⟨rfl, rfl⟩
    · exact (trace.beside Session).emits_chained ((trace.beside Session).emits_pure_run untagged)
        fun tagged? => (trace.beside Session).emits_liftM_run ⟨rfl, rfl⟩

theorem readsBalance_kept (contract owner : Address) :
    trace.keeping.Emits (Action.ofContract (.readBalance owner)
      ((desk.contractAt contract).balanceOf owner)).run (ReadsBalance desk.settings.rpcUrl contract owner) := by
  refine trace.keeping.emits_adapt_run (trace.keeping.emits_mono
    (desk.ask_kept seen contract (Erc20.dataOf_balance owner) Abi.decodeUint) ?_)
  rintro log result ⟨reply, rfl, posts⟩
  exact ⟨reply, rfl, posts⟩

theorem readPayment_seen (text : String) (contract payer : Address) :
    (trace.beside Session).Emits (desk.readPayment text contract payer).run
      (ReadsPayment desk.settings text contract payer) := by
  refine (trace.beside Session).emits_chained (desk.readsDestination_seen seen text) fun destination =>
    Trace.beside_of_keeping ?_
  exact trace.keeping.emits_chained (desk.readsDecimals_kept seen contract) fun decimals =>
    trace.keeping.emits_chained (desk.readsSymbol_kept seen contract) fun symbol =>
      trace.keeping.emits_chained (desk.readsBalance_kept seen contract payer) fun balance =>
        trace.keeping.emits_pure_run ⟨rfl, rfl⟩

end Desk

/-! Sending. -/

namespace Rpc

theorem exists_sendCall_of_told {url : String} {events : List TransportEvent} {log : List HostEvent} {call : Call}
    (told : Told (Wire url) events log) (listed : call ∈ calls log) (send : call.isSend) :
    ∃ transaction answer reply, .sendTransaction transaction answer ∈ events ∧ call = sendCall transaction reply := by
  obtain ⟨heard, within, same⟩ := List.mem_filterMap.mp listed
  obtain ⟨event, among, part, wire, here⟩ := told.exists_of_mem within
  have made : call ∈ calls part := List.mem_filterMap.mpr ⟨heard, here, same⟩
  by_cases quiet : event.isQuiet
  · exact absurd send ((wire.quiet quiet).not_isSend made)
  · cases event with
    | sendTransaction transaction answer =>
      obtain ⟨reply, -, posts⟩ := wire
      rw [posts.calls_eq, List.mem_singleton] at made
      exact ⟨transaction, answer, reply, among, made⟩
    | unlockAccount account passphrase time answer =>
      obtain ⟨reply, -, posts⟩ := wire
      rw [posts.calls_eq, List.mem_singleton] at made
      rw [made] at send
      cases send
    | _ => exact absurd rfl quiet

end Rpc

namespace PaySheet

def line (sheet : PaySheet) (shown : String) : String :=
  "Pay " ++ shown ++ " " ++ sheet.symbol ++ " from " ++ sheet.payer.checksummed ++ " to " ++
    sheet.destination.checksummed

/-- The call sends the payer's transaction to the contract, to transfer the amount to the destination. -/
def Transfers (sheet : PaySheet) (amount : Amount) (call : Call) : Prop :=
  ∃ transaction reply, call = sendCall transaction reply ∧ transaction.sender = sheet.payer ∧
    transaction.destination = some sheet.contract ∧
    Contract.dataOf "transfer(address,uint256)" [.address sheet.destination, .uint amount] = .ok transaction.data

/-- Nothing is told of a payment that failed before its line, which shows the amount. -/
def Tells (sheet : PaySheet) (amount : Amount) (log : List HostEvent) (result : Except Failure Unit) : Prop :=
  printed log = [] ∧ (∃ cause, result = .error cause) ∨
    ∃ shown others, printed log = sheet.line shown :: others ∧ Amount.parse sheet.decimals shown = .ok amount

/-- What is left behind when an amount is to be paid: attempts to unlock the account, then one transfer, and then the
line that tells of it, up to the first that fails. -/
structure Attempts (sheet : PaySheet) (amount : Amount) (log : List HostEvent) (result : Except Failure Unit) :
    Prop where
  encodes : ∃ data, Contract.dataOf "transfer(address,uint256)" [.address sheet.destination, .uint amount] = .ok data
  sends : ∀ call ∈ Rpc.calls log, call.isSend → sheet.Transfers amount call
  once : (Rpc.calls log).countP Call.isSend ≤ 1
  unlocked : ∀ before call after, Rpc.calls log = before ++ call :: after → call.isSend →
    ∃ unlock ∈ before, unlock.Unlocks sheet.payer
  tells : sheet.Tells amount log result

variable {sheet : PaySheet} {amount : Amount} {unlocking sending more : List HostEvent}
  {result : Except Failure Unit} {attempts : Nat}

theorem attempts_of_locked {cause : Failure} {data : List UInt8} (attempting : IsAttempting attempts unlocking)
    (encoded : Contract.dataOf "transfer(address,uint256)" [.address sheet.destination, .uint amount] = .ok data) :
    sheet.Attempts amount unlocking (.error cause) where
  encodes := ⟨data, encoded⟩
  sends _ listed send := absurd send (attempting.not_isSend listed)
  once := by
    rw [Rpc.countP_isSend_eq_zero attempting.sends_nothing]
    exact Nat.zero_le 1
  unlocked before call after parts send := absurd send (attempting.not_isSend (by simp [parts]))
  tells := .inl ⟨attempting.prints_nothing, cause, rfl⟩

theorem attempts_of_submission {url : String} {events : List TransportEvent} {outcome : Except ContractError Sent}
    {data : List UInt8} (attempting : IsAttempting attempts unlocking) (unlocked : IsUnlocked sheet.payer unlocking)
    (encoded : Contract.dataOf "transfer(address,uint256)" [.address sheet.destination, .uint amount] = .ok data)
    (made : Submission (.of sheet.payer) (some sheet.contract) data events outcome)
    (told : Told (Rpc.Wire url) events sending) (quiet : Quiet more) (tells : sheet.Tells amount more result) :
    sheet.Attempts amount (unlocking ++ (sending ++ more)) result := by
  have silent_printed : printed (unlocking ++ (sending ++ more)) = printed more := by
    simp [attempting.prints_nothing, Rpc.printed_of_told told]
  obtain ⟨limited, -⟩ := made.isSending told
  refine ⟨⟨data, encoded⟩, ?_, ?_, ?_, ?_⟩
  · intro call listed send
    obtain ⟨transaction, answer, reply, among, same⟩ := Rpc.exists_sendCall_of_told told
      (attempting.mem_of_send quiet listed send) send
    obtain ⟨sender, -, destination, carried⟩ := made.submits.request transaction answer among
    exact ⟨transaction, reply, same, sender, destination, carried ▸ encoded⟩
  · rw [attempting.countP_isSend quiet]
    exact limited.length_le 1 rfl
  -- Nothing is sent while the account is being unlocked, so what was sent comes behind all of that.
  · intro before call after parts send
    rw [Rpc.calls_append] at parts
    obtain ⟨between, rfl, -⟩ := Command.exists_between parts attempting.sends_nothing send
    obtain ⟨unlock, listed, said⟩ := unlocked
    exact ⟨unlock, List.mem_append_left _ listed, said⟩
  · rw [Tells, silent_printed]
    exact tells

inductive Ends (sheet : PaySheet) (text : String) : List HostEvent → Except Failure Unit → Prop where
  | refused {cause : Failure} : sheet.Refuses text cause → Ends sheet text [] (.error cause)
  | attempted {amount : Amount} {log : List HostEvent} {result : Except Failure Unit} : sheet.Pays text amount →
      sheet.Attempts amount log result → Ends sheet text log result

end PaySheet

namespace Desk

variable {m : Type → Type} [Monad m]

def payRead (desk : Desk m) (request : PayRequest) (sheet : PaySheet) : Action m Unit := do
  let amount ← liftM (paymentOf request.amount sheet.balance sheet.decimals)
  desk.unlock sheet.payer
  let sent ← Action.ofContract .sendTransfer
    ((Erc20.mk (desk.contractAt sheet.contract)).transfer (.of sheet.payer) sheet.destination amount)
  desk.say (sheet.line (Amount.render sheet.decimals amount))
  desk.confirm sent request.waits

variable [LawfulMonad m]

theorem payUnits_bind (desk : Desk m) (request : PayRequest) (contract payer : Address) :
    (do
      let destination ← desk.parseAddress request.destination
      let sent ← desk.payUnits ⟨desk.contractAt contract⟩ payer destination request.amount
      desk.confirm sent request.waits) =
        desk.readPayment request.destination contract payer >>= desk.payRead request := by
  simp only [payUnits, readPayment, payRead, bind_assoc, pure_bind]
  rfl

variable {trace : Trace m HostEvent} {desk : Desk m} (seen : desk.host.IsSeen trace)
include seen

theorem payRead_seen (request : PayRequest) {sheet : PaySheet} (fits : sheet.balance < 2 ^ 256) :
    (trace.beside Session).Emits (desk.payRead request sheet).run (sheet.Ends request.amount) := by
  refine (trace.beside Session).emits_bind_liftM_run ?_ ?_
  · intro cause failed
    exact .refused (PaySheet.paymentOf_eq_error_iff.mp failed)
  intro amount known
  have pays := PaySheet.paymentOf_eq_ok_iff.mp known
  have encoded := Erc20.dataOf_transfer sheet.destination (Nat.lt_of_le_of_lt pays.covered fits)
  refine (trace.beside Session).emits_bind_run (desk.unlock_seen seen sheet.payer) ?_ ?_
  · intro unlocking cause ⟨attempting, _⟩
    exact .attempted pays (PaySheet.attempts_of_locked attempting encoded)
  intro unlocking _ ⟨attempting, unlocked⟩
  have submits := Trace.emits_through_iff.mp (Contract.transact_heard (desk.contractAt sheet.contract)
    (desk.transport_heard seen) (.of sheet.payer) encoded)
  refine (trace.beside Session).emits_bind_adapt_run submits ?_ ?_
  · intro sending cause ⟨events, told, made⟩
    have attempts : sheet.Attempts amount (unlocking ++ (sending ++ []))
        (.error (.during .sendTransfer (.contract cause))) :=
      PaySheet.attempts_of_submission attempting (unlocked.mp rfl) encoded made told Rpc.quiet_nil (.inl ⟨rfl, _, rfl⟩)
    rw [List.append_nil] at attempts
    exact .attempted pays attempts
  intro sending sent ⟨events, told, made⟩
  refine (trace.beside Session).emits_bind_lift_run (Trace.emits_beside_lift (seen.say _)) ?_
  rintro _ _ rfl
  refine (trace.beside Session).emits_mono (desk.confirm_quiet seen sent request.waits) ?_
  intro confirming result quiet
  -- The line is told once the transaction is taken, and asks nobody to do anything.
  have told_quiet : Quiet (.said (sheet.line (Amount.render sheet.decimals amount)) :: confirming) := quiet
  exact .attempted pays (PaySheet.attempts_of_submission attempting (unlocked.mp rfl) encoded made told told_quiet
    (.inr ⟨_, printed confirming, rfl, Amount.parse_render sheet.decimals amount⟩))

theorem pay_seen (request : PayRequest) (units : desk.settings.kind = .fungible) :
    (trace.beside Session).Emits (desk.pay request).run
      (Chained (ReadsPaySheet desk.settings request.destination) fun sheet => sheet.Ends request.amount) := by
  refine (trace.beside Session).emits_bind_liftM_run ?_ ?_
  · intro cause failed
    refine .stopped (.stopped (NamesParties.of_failed cause ?_))
    intro contract payer ⟨known, _, _⟩
    cases failed.symm.trans (token_eq_ok_iff.mpr ⟨contract, known, rfl⟩)
  intro token named
  obtain ⟨contract, known, rfl⟩ := token_eq_ok_iff.mp named
  refine (trace.beside Session).emits_bind_liftM_run ?_ ?_
  · intro cause failed
    refine .stopped (.stopped (NamesParties.of_failed cause ?_))
    intro _ payer ⟨_, _, configured⟩
    cases failed.symm.trans (Settings.payer_eq_ok_iff.mpr configured)
  intro payer configured
  have names : NamesParties desk.settings [] (.ok (contract, payer)) :=
    ⟨rfl, by simp [known, units, Settings.payer_eq_ok_iff.mp configured]⟩
  have reads := desk.readPayment_seen seen request.destination contract payer
  -- With its kind known, the token is paid by reading the sheet and then attempting it.
  suffices (trace.beside Session).Emits
      (desk.readPayment request.destination contract payer >>= desk.payRead request).run
      (Chained (ReadsPaySheet desk.settings request.destination) fun sheet => sheet.Ends request.amount) by
    rw [← payUnits_bind] at this
    dsimp only
    rw [units]
    exact this
  refine (trace.beside Session).emits_bind_run reads ?_ ?_
  · intro log cause failed
    exact .stopped (.continued names failed)
  · intro log sheet payment
    refine (trace.beside Session).emits_mono (desk.payRead_seen seen request payment.balance_lt) ?_
    intro rest result ends
    exact .continued (.continued names payment) ends

end Desk

/-! The command. -/

def ReadsUnits (path : String) (flags : Flags) (text : String) : List HostEvent → Except Failure PaySheet → Prop :=
  Chained (LoadsSettings path flags) fun settings => ReadsPaySheet settings text

inductive PaysUnits (path : String) (flags : Flags) (request : PayRequest) (log : List HostEvent) :
    Except Failure Unit → Prop where
  | otherKind {loading rest : List HostEvent} {settings : Settings} {result : Except Failure Unit} :
      log = loading ++ rest → LoadsSettings path flags loading (.ok settings) → settings.kind = .nonFungible →
        PaysUnits path flags request log result
  | unread {cause : Failure} : ReadsUnits path flags request.destination log (.error cause) → IsSilent log →
      PaysUnits path flags request log (.error cause)
  | refused {sheet : PaySheet} {cause : Failure} : ReadsUnits path flags request.destination log (.ok sheet) →
      IsSilent log → sheet.Refuses request.amount cause → PaysUnits path flags request log (.error cause)
  | attempted {read rest : List HostEvent} {sheet : PaySheet} {amount : Amount} {result : Except Failure Unit} :
      log = read ++ rest → ReadsUnits path flags request.destination read (.ok sheet) → IsSilent read →
      sheet.Pays request.amount amount → sheet.Attempts amount rest result → PaysUnits path flags request log result

section
variable {path : String} {flags : Flags} {request : PayRequest} {loading rest : List HostEvent} {settings : Settings}
  {result : Except Failure Unit}

theorem ReadsUnits.isSilent {text : String} {log : List HostEvent} {result : Except Failure PaySheet}
    (reads : ReadsUnits path flags text log result) : IsSilent log :=
  Chained.closed reads .append LoadsSettings.isSilent ReadsPaySheet.isSilent

theorem paysUnits_of_ends (loads : LoadsSettings path flags loading (.ok settings))
    (ends : Chained (ReadsPaySheet settings request.destination) (fun sheet => sheet.Ends request.amount) rest result) :
    PaysUnits path flags request (loading ++ rest) result := by
  rcases ends with unread | ⟨read, refused | ⟨pays, attempts⟩⟩
  · have reads : ReadsUnits path flags request.destination _ _ := .continued loads unread
    exact .unread reads reads.isSilent
  · have reads : ReadsUnits path flags request.destination _ _ := .continued loads read
    rw [List.append_nil]
    exact .refused reads reads.isSilent refused
  · have reads : ReadsUnits path flags request.destination _ _ := .continued loads read
    rw [← List.append_assoc]
    exact .attempted rfl reads reads.isSilent pays attempts

end

theorem Command.pay_seen {m : Type → Type} [Monad m] [LawfulMonad m] {trace : Trace m HostEvent} {host : Host m}
    (seen : host.IsSeen trace) (flags : Flags) (path : String) (request : PayRequest) :
    trace.Emits ((Command.pay request).run host flags path).run (PaysUnits path flags request) := by
  have acts (file : SettingsFile) (settings : Settings) :
      (trace.beside Session).Emits (Desk.pay ⟨settings, host⟩ request).run fun log result =>
        settings.kind = .fungible → Chained (ReadsPaySheet settings request.destination)
          (fun sheet => sheet.Ends request.amount) log result := by
    -- Nothing is claimed of a token of the other kind, but its run has to emit some log.
    by_cases units : settings.kind = .fungible
    · exact (trace.beside Session).emits_mono (Desk.pay_seen seen request units) fun _ _ ends _ => ends
    · exact (trace.beside Session).emits_mono (Desk.pay_outlined seen request) fun _ _ _ same => absurd same units
  rw [run]
  refine trace.emits_mono (Command.atDesk_seen seen acts) ?_
  intro log result chained
  cases chained with
  | stopped unloaded =>
    have failed : ReadsUnits path flags request.destination _ _ := .stopped unloaded
    exact .unread failed failed.isSilent
  | @continued loading rest settings _ loads ends =>
    cases kind : settings.kind with
    | fungible => exact paysUnits_of_ends loads (ends kind)
    | nonFungible => exact .otherKind rfl loads kind

variable {σ : Type}

/-- Whatever node, terminal and files there are, a payment of units moves the amount that its text stands for under
the decimals and the balance that the node answered, or it fails before anybody is asked to unlock the account. -/
theorem Command.pay_exact (host : Host (StateM σ)) (flags : Flags) (path : String) (request : PayRequest) (state : σ) :
    ∃ result log after,
      (((Command.pay request).run host.recorded flags path).run.run []).run state = ((result, log), after) ∧
        PaysUnits path flags request log result := by
  obtain ⟨log, result, after, ran, pays⟩ := Command.pay_seen host.recorded_seen flags path request [] state
  exact ⟨result, log, after, ran, pays⟩

end TokenDesk
