import TokenDesk.Proofs.Command.BatchPay
import TokenDesk.Proofs.Command.Payment
import TokenDesk.Proofs.Desk.Destination

/-! Commands that take destinations.

A node and its chain are fixed, and each command is described by all that its run asks,
tells and sends. The texts that it is given enter only as the addresses that they stand
for in a batch file on that node, so a text is accepted by one command exactly if it is
by every other, and for the same address.
-/

set_option autoImplicit false

namespace TokenDesk

open Rpc (Learns OnNode Quiet Session)

inductive AsksContract {α : Type} (url : String) (contract : Address) (signature : String)
    (arguments : List Abi.Argument) (read : List UInt8 → Except Abi.Error α) :
    List HostEvent → Except ContractError α → Prop where
  | unwritten {cause : ContractError} : Contract.dataOf signature arguments = .error cause →
      AsksContract url contract signature arguments read [] (.error cause)
  | asked {data : List UInt8} {log : List HostEvent} {reply : Except String HttpReply} :
      Contract.dataOf signature arguments = .ok data →
      Rpc.Posts url "eth_call" [Rpc.callJson contract data, .string "pending"] reply log →
        AsksContract url contract signature arguments read log
          (Contract.reading read (Rpc.textOf "eth_call" Rpc.parseBytes reply))

/-- A transaction with these data is submitted to a contract for the payer, unless there are none. -/
inductive SubmitsTo (url : String) (payer contract : Address) (data : Except ContractError (List UInt8)) :
    List HostEvent → Except ContractError Sent → Prop where
  | unwritten {cause : ContractError} : data = .error cause → SubmitsTo url payer contract data [] (.error cause)
  | submitted {written : List UInt8} {events : List TransportEvent} {log : List HostEvent}
      {result : Except ContractError Sent} : data = .ok written →
      Submission (.of payer) (some contract) written events result → Told (Rpc.Wire url) events log →
        SubmitsTo url payer contract data log result

/-- A failure comes with the task in which it happened. -/
def During {α : Type} (task : Task) (Goes : List HostEvent → Except ContractError α → Prop) (log : List HostEvent)
    (result : Except Failure α) : Prop :=
  ∃ outcome, Goes log outcome ∧ result = outcome.mapError fun cause => .during task (.contract cause)

def Unlocks (url : String) (payer : Address) (log : List HostEvent) (result : Except Failure Unit) : Prop :=
  IsTrying url payer unlockAttempts log ∧ (result = .ok () ↔ IsUnlocked payer log)

def Says (lines : List String) (log : List HostEvent) (result : Except Failure Unit) : Prop :=
  log = lines.map .said ∧ result = .ok ()

/-- The payer's account is unlocked, a transaction is submitted, and a line tells of it. -/
def Transacts (url : String) (payer contract : Address) (task : Task) (data : Except ContractError (List UInt8))
    (line : String) : List HostEvent → Except Failure Sent → Prop :=
  Chained (Unlocks url payer) fun _ => Chained (During task (SubmitsTo url payer contract data)) fun sent =>
    Chained (Says [line]) fun _ => Yields (.ok sent)

/-! What is done with an address, once it is known. -/

section
variable (settings : Settings) (contract payer destination : Address)

def PaysUnitsTo (text : String) : List HostEvent → Except Failure Sent → Prop :=
  Chained (ReadsContract settings.rpcUrl .readDecimals contract "decimals()" decimalsIn) fun decimals =>
    Chained (ReadsContract settings.rpcUrl .readSymbol contract "symbol()" (Contract.reading Abi.decodeString))
      fun symbol => Chained (ReadsBalance settings.rpcUrl contract payer) fun balance =>
        Chained (Yields (Desk.paymentOf text balance decimals)) fun amount =>
          Transacts settings.rpcUrl payer contract .sendTransfer
            (Contract.dataOf "transfer(address,uint256)" [.address destination, .uint amount])
            ("Pay " ++ Amount.render decimals amount ++ " " ++ symbol ++ " from " ++ payer.checksummed ++ " to " ++
              destination.checksummed)

def PaysTokenTo (text : String) : List HostEvent → Except Failure Sent → Prop :=
  Chained (Yields (parseTokenId text)) fun id =>
    Chained (During (.readOwnerOf id)
      (AsksContract settings.rpcUrl contract "ownerOf(uint256)" [.uint id] Abi.decodeAddress)) fun owner =>
        Chained (Says (if owner = payer then [] else ["Warning: token " ++ Amount.decimal id ++ " is owned by " ++
          owner.checksummed ++ ", not by " ++ payer.checksummed])) fun _ =>
            Transacts settings.rpcUrl payer contract .sendTransfer
              (Contract.dataOf "transferFrom(address,address,uint256)"
                [.address payer, .address destination, .uint id])
              ("Pay token " ++ Amount.decimal id ++ " from " ++ payer.checksummed ++ " to " ++
                destination.checksummed)

def ReadsIdToMint (given : Option String) : List HostEvent → Except Failure Amount → Prop :=
  match given with
  | some text => Yields (parseTokenId text)
  | none => During .readSupply (AsksContract settings.rpcUrl contract "totalSupply()" [] Abi.decodeUint)

def MintsTo (request : MintRequest) : List HostEvent → Except Failure Unit → Prop :=
  Chained (ReadsIdToMint settings contract request.tokenId) fun id =>
    Chained (During .checkExistence
      (AsksContract settings.rpcUrl contract "exists(uint256)" [.uint id] Abi.decodeBool)) fun isPresent =>
        if isPresent then Yields (.error (.refused (.tokenPresent id)))
        else Chained (Transacts settings.rpcUrl payer contract .sendMint (mintData destination id request.uri)
          ("Mint token " ++ Amount.decimal id ++ " to " ++ destination.checksummed)) fun _ log _ => Quiet log

def ShowsUnitsOf (decimals : Decimals) (symbol : String) (owner : Address) :
    List HostEvent → Except Failure Unit → Prop :=
  Chained (ReadsBalance settings.rpcUrl contract owner) fun amount =>
    Says [owner.checksummed ++ " " ++ Amount.render decimals amount ++ " " ++ symbol]

def tokenLines : Except ContractError (List Amount) → List String
  | .ok ids => ["\tTokens: " ++ ", ".intercalate (ids.map Amount.decimal)]
  | .error _ => []

/-- The tokens of an owner who has some are told as far as the contract can tell. -/
def ListsTokensOf (owner : Address) (count : Amount) (log : List HostEvent) (result : Except Failure Unit) : Prop :=
  if count = 0 then Yields (.ok ()) log result
  else ∃ asked answer, log = asked ++ (tokenLines answer).map .said ∧ result = .ok () ∧
    AsksContract settings.rpcUrl contract "tokensOfOwner(address)" [.address owner] Abi.decodeUintArray asked answer

def ShowsTokensOf (symbol : String) (owner : Address) : List HostEvent → Except Failure Unit → Prop :=
  Chained (ReadsBalance settings.rpcUrl contract owner) fun count =>
    Chained (Says [owner.checksummed ++ " " ++ Amount.decimal count ++ " " ++ symbol]) fun _ =>
      ListsTokensOf settings contract owner count

/-- How much of the chain's own currency an account holds is asked for and told. -/
def ShowsAccount (unit : Option NativeUnit) (account : Address) : List HostEvent → Except Failure Amount → Prop :=
  Chained (fun log result => ∃ reply,
    Rpc.Posts settings.rpcUrl "eth_getBalance" [.string account.lower, .string "latest"] reply log ∧
      result = (Rpc.textOf "eth_getBalance" Rpc.parseAmount reply).mapError
        fun cause => .during (.getBalance account) (.transport cause)) fun balance =>
          Chained (Says ["Address[" ++ account.checksummed ++ "] Balance[" ++
            NativeUnit.renderIn settings.blockchain.units balance unit ++ "]"]) fun _ => Yields (.ok balance)

end

/-! The commands. -/

section
variable (settings : Settings) (chain : ChainId)

def PaysOne (request : PayRequest) : List HostEvent → Except Failure Unit → Prop :=
  Chained (Yields settings.contractAddress) fun contract => Chained (Yields settings.payer) fun payer =>
    Chained (Resolves settings chain request.destination) fun destination =>
      Chained (match settings.kind with
        | .fungible => PaysUnitsTo settings contract payer destination request.amount
        | .nonFungible => PaysTokenTo settings contract payer destination request.amount) fun _ log _ => Quiet log

def Mints (request : MintRequest) : List HostEvent → Except Failure Unit → Prop :=
  Chained (Yields settings.contractAddress) fun contract =>
    match settings.kind with
    | .fungible => Yields (.error (.contract (.wrongKind "mint" .nonFungible .fungible)))
    | .nonFungible => Chained (Yields settings.payer) fun payer =>
      Chained (During .checkMinter
        (AsksContract settings.rpcUrl contract "isMinter(address)" [.address payer] Abi.decodeBool)) fun isMinter =>
          if isMinter then
            Chained (Resolves settings chain request.destination) fun destination =>
              MintsTo settings contract payer destination request
          else Yields (.error (.refused (.notMinter payer contract)))

def ShowsBalances (texts : List String) : List HostEvent → Except Failure Unit → Prop :=
  Chained (Yields settings.contractAddress) fun contract =>
    Chained (ResolvesSome settings chain texts) fun owners =>
      Chained (ReadsContract settings.rpcUrl .readSymbol contract "symbol()" (Contract.reading Abi.decodeString))
        fun symbol =>
          match settings.kind with
          | .fungible =>
            Chained (ReadsContract settings.rpcUrl .readDecimals contract "decimals()" decimalsIn) fun decimals =>
              Chained (InTurn (ShowsUnitsOf settings contract decimals symbol) owners) fun _ => Yields (.ok ())
          | .nonFungible => Chained (InTurn (ShowsTokensOf settings contract symbol) owners) fun _ => Yields (.ok ())

def ShowsAccounts (request : AccountsRequest) : List HostEvent → Except Failure Unit → Prop :=
  Chained (Yields (request.unit.mapM (NativeUnit.ofName settings.blockchain.units))) fun unit =>
    Chained (InTurn (Resolves settings chain) request.addresses) fun accounts =>
      Chained (InTurn (ShowsAccount settings unit) accounts) fun balances =>
        Says (if request.sums || 1 < balances.length then
          Desk.totalLines settings.blockchain.units unit balances else [])

/-- A file is read on a node of the chain, which is asked for its network at most. -/
def ReadsPlan (decimals : Decimals) (path source : String) (log : List HostEvent) (result : Except Failure Plan) :
    Prop :=
  let rules : PlanRules := { decimals, taggedChain := settings.taggedChain chain }
  Rpc.AsksNetwork settings.rpcUrl log ∧ (log ≠ [] → settings.blockchain.hasTaggedAddresses) ∧
    ∃ lines, Text.IsCut '\n' source.toList lines ∧
      (∀ plan, result = .ok plan ↔ Plan.IsPlanOf rules (Plan.numbered 1 lines) plan) ∧
      ∀ cause, result = .error cause ↔ ∃ fault, cause = .during (.parseBatchFile path) (.plan fault) ∧
        Plan.IsFaultOf rules (Plan.numbered 1 lines) fault

def PaysListed (request : BatchPayRequest) : List HostEvent → Except Failure Unit → Prop :=
  Chained (Yields settings.contractAddress) fun contract =>
    match settings.kind with
    | .nonFungible => Yields (.error (.contract (.wrongKind "batchpay" .fungible .nonFungible)))
    | .fungible => Chained (Yields settings.payer) fun payer => Chained (ReadsFile request.path) fun source =>
      Chained (ReadsContract settings.rpcUrl .readDecimals contract "decimals()" decimalsIn) fun decimals =>
        Chained (ReadsContract settings.rpcUrl .readSymbol contract "symbol()" (Contract.reading Abi.decodeString))
          fun symbol => Chained (ReadsPlan settings chain decimals request.path source) fun plan =>
            Pays settings.rpcUrl settings.blockchain.units request { contract, payer, decimals, symbol, plan }

end

/-- The chain that a batch asks for is the one under which its lines are read, wherever there are tagged addresses. -/
theorem PlanRules.on_asked (settings : Settings) (chain : ChainId) (decimals : Decimals) :
    PlanRules.on settings.blockchain decimals (if settings.blockchain.hasTaggedAddresses then chain else default) =
      { decimals, taggedChain := settings.taggedChain chain } := by
  rw [on, Settings.taggedChain]
  split <;> rfl

theorem readsPlan_of_asks {settings : Settings} {chain : ChainId} (decimals : Decimals) (path source : String)
    {log : List HostEvent} {result : Except Failure Plan} (asks : Rpc.AsksNetwork settings.rpcUrl log)
    (tagged : log ≠ [] → settings.blockchain.hasTaggedAddresses)
    (read : result = (Plan.ofSource (.on settings.blockchain decimals
      (if settings.blockchain.hasTaggedAddresses then chain else default)) source).mapError
        fun cause => .during (.parseBatchFile path) (.plan cause)) :
    ReadsPlan settings chain decimals path source log result := by
  rw [PlanRules.on_asked] at read
  refine ⟨asks, tagged, Text.pieces '\n' source.toList, Text.pieces_eq_iff.mp rfl, fun plan => ?_, fun cause => ?_⟩
  · rw [read, mapError_eq_ok_iff]
    exact Plan.ofLines_eq_ok_iff
  · rw [read, mapError_eq_error_iff]
    refine exists_congr fun fault => ?_
    rw [and_comm, eq_comm]
    exact and_congr_right fun _ => Plan.ofLines_eq_error_iff

namespace Desk

variable {m : Type → Type} [Monad m] [LawfulMonad m]

theorem token_bind {α : Type} (desk : Desk m) (next : Token (Rpc.Requests m) → Action m α) :
    (liftM desk.token >>= next : Action m α) = liftM desk.settings.contractAddress >>= fun contract =>
      next { kind := desk.settings.kind, contract := desk.contractAt contract } := by
  unfold token
  cases desk.settings.contractAddress with
  | error cause => exact (bind_liftM_error cause _).trans (bind_liftM_error cause _).symm
  | ok contract =>
    rw [bind_liftM_ok]
    exact bind_liftM_ok _ _

def sendFor (desk : Desk m) (payer : Address) (task : Task) (send : ExceptT ContractError (Rpc.Requests m) Sent)
    (line : String) : Action m Sent := do
  desk.unlock payer
  let sent ← Action.ofContract task send
  desk.say line
  return sent

variable {trace : Trace m HostEvent} {desk : Desk m} (seen : desk.host.IsSeen trace)

theorem emits_during {above : Trace (Rpc.Requests m) HostEvent} {α : Type} {task : Task}
    {x : ExceptT ContractError (Rpc.Requests m) α} {Goes : List HostEvent → Except ContractError α → Prop}
    (emits : above.Emits x.run Goes) : above.Emits (Action.ofContract task x).run (During task Goes) :=
  above.emits_adapt_run (above.emits_mono emits fun _ outcome goes => ⟨outcome, goes, rfl⟩)

include seen

theorem asksContract_kept {α : Type} (contract : Address) (signature : String) (arguments : List Abi.Argument)
    (read : List UInt8 → Except Abi.Error α) :
    trace.keeping.Emits ((desk.contractAt contract).ask signature arguments read).run
      (AsksContract desk.settings.rpcUrl contract signature arguments read) := by
  cases encoded : Contract.dataOf signature arguments with
  | error cause =>
    rw [Contract.ask, encoded, bind_liftM_error]
    exact trace.keeping.emits_throw_run (.unwritten encoded)
  | ok data =>
    refine trace.keeping.emits_mono (desk.ask_kept seen contract encoded read) ?_
    rintro log _ ⟨reply, rfl, posts⟩
    exact .asked encoded posts

theorem submitsTo_seen (payer contract : Address) (signature : String) (arguments : List Abi.Argument) :
    (trace.beside Session).Emits ((desk.contractAt contract).transact (.of payer) signature arguments).run
      (SubmitsTo desk.settings.rpcUrl payer contract (Contract.dataOf signature arguments)) := by
  cases encoded : Contract.dataOf signature arguments with
  | error cause =>
    rw [Contract.transact, encoded, bind_liftM_error]
    exact (trace.beside Session).emits_throw_run (.unwritten rfl)
  | ok data =>
    refine (trace.beside Session).emits_mono (Trace.emits_through_iff.mp
      (Contract.transact_heard (desk.contractAt contract) (desk.transport_heard seen) (.of payer) encoded)) ?_
    rintro log result ⟨events, told, made⟩
    exact .submitted rfl made told

theorem says_seen (line : String) : (trace.beside Session).Emits (desk.say line).run (Says [line]) := by
  refine (trace.beside Session).emits_lift_run (Trace.emits_beside_lift (trace.emits_mono (seen.say line) ?_))
  rintro _ _ rfl
  exact ⟨rfl, rfl⟩

theorem sendFor_seen (payer contract : Address) (task : Task) {data : Except ContractError (List UInt8)}
    {send : ExceptT ContractError (Rpc.Requests m) Sent}
    (submits : (trace.beside Session).Emits send.run (SubmitsTo desk.settings.rpcUrl payer contract data))
    (line : String) : (trace.beside Session).Emits (desk.sendFor payer task send line).run
      (Transacts desk.settings.rpcUrl payer contract task data line) :=
  (trace.beside Session).emits_chained (desk.unlock_tries seen payer) fun _ =>
    (trace.beside Session).emits_chained (emits_during submits) fun _ =>
      (trace.beside Session).emits_chained (desk.says_seen seen line) fun _ =>
        (trace.beside Session).emits_pure_run ⟨rfl, rfl⟩

theorem payUnits_seen (contract payer destination : Address) (text : String) :
    (trace.beside Session).Emits (desk.payUnits ⟨desk.contractAt contract⟩ payer destination text).run
      (PaysUnitsTo desk.settings contract payer destination text) :=
  Trace.emits_after_kept (desk.readsDecimals_kept seen contract) fun _ =>
    Trace.emits_after_kept (desk.readsSymbol_kept seen contract) fun _ =>
      Trace.emits_after_kept (desk.readsBalance_kept seen contract payer) fun _ =>
        (trace.beside Session).emits_chained ((trace.beside Session).emits_yields _) fun _ =>
          desk.sendFor_seen seen payer contract .sendTransfer (desk.submitsTo_seen seen payer contract _ _) _

theorem payToken_seen (contract payer destination : Address) (text : String) :
    (trace.beside Session).Emits (desk.payToken ⟨desk.contractAt contract⟩ payer destination text).run
      (PaysTokenTo desk.settings contract payer destination text) := by
  refine (trace.beside Session).emits_chained ((trace.beside Session).emits_yields _) fun id =>
    Trace.emits_after_kept (emits_during (desk.asksContract_kept seen contract _ _ _)) fun owner => ?_
  have paid := desk.sendFor_seen seen payer contract .sendTransfer (desk.submitsTo_seen seen payer contract
    "transferFrom(address,address,uint256)" [.address payer, .address destination, .uint id])
    ("Pay token " ++ Amount.decimal id ++ " from " ++ payer.checksummed ++ " to " ++ destination.checksummed)
  -- Without the warning nothing happens before the transfer.
  by_cases owned : owner = payer
  · rw [if_neg (not_not_intro owned), if_pos owned]
    exact (trace.beside Session).emits_mono paid fun _ _ transacts => .of_silent ⟨rfl, rfl⟩ transacts
  · rw [if_pos owned, if_neg owned]
    exact (trace.beside Session).emits_chained (desk.says_seen seen _) fun _ => paid

theorem pay_onNode (request : PayRequest) :
    OnNode trace desk.settings.rpcUrl (desk.pay request) fun chain => PaysOne desk.settings chain request := by
  rw [pay, token_bind]
  refine .chained (.yields _) fun contract => .chained (.yields _) fun payer =>
    .chained (desk.parseAddress_resolves seen request.destination) fun destination => .of_beside ?_
  have confirmed := fun sent => desk.confirm_quiet seen sent request.waits
  cases desk.settings.kind with
  | fungible =>
    exact (trace.beside Session).emits_chained (desk.payUnits_seen seen contract payer destination _) confirmed
  | nonFungible =>
    exact (trace.beside Session).emits_chained (desk.payToken_seen seen contract payer destination _) confirmed

theorem idToMint_seen (contract : Address) (given : Option String) :
    (trace.beside Session).Emits (idToMint ⟨desk.contractAt contract⟩ given).run
      (ReadsIdToMint desk.settings contract given) := by
  cases given with
  | some text => exact (trace.beside Session).emits_yields _
  | none => exact Trace.beside_of_keeping (emits_during (desk.asksContract_kept seen contract _ _ _))

theorem mintSubmits_seen (payer contract destination : Address) (id : Amount) (uri : Option String) :
    (trace.beside Session).Emits (sendMint ⟨desk.contractAt contract⟩ (.of payer) destination id uri).run
      (SubmitsTo desk.settings.rpcUrl payer contract (mintData destination id uri)) := by
  cases uri with
  | some uri => exact desk.submitsTo_seen seen payer contract _ _
  | none => exact desk.submitsTo_seen seen payer contract _ _

theorem mintTo_seen (contract payer destination : Address) (request : MintRequest) :
    (trace.beside Session).Emits (do
      let id ← idToMint ⟨desk.contractAt contract⟩ request.tokenId
      let isPresent ← Action.ofContract .checkExistence ((Erc721.mk (desk.contractAt contract)).exists id)
      if isPresent then throw (.refused (.tokenPresent id))
      desk.unlock payer
      let sent ← Action.ofContract .sendMint
        (sendMint ⟨desk.contractAt contract⟩ (.of payer) destination id request.uri)
      desk.say ("Mint token " ++ Amount.decimal id ++ " to " ++ destination.checksummed)
      desk.confirm sent true : Action m Unit).run (MintsTo desk.settings contract payer destination request) := by
  refine (trace.beside Session).emits_chained (desk.idToMint_seen seen contract request.tokenId) fun id =>
    Trace.emits_after_kept (emits_during (desk.asksContract_kept seen contract _ _ _)) fun isPresent => ?_
  cases isPresent with
  | true => exact (trace.beside Session).emits_throw_bind _ _
  | false =>
    have minted := (trace.beside Session).emits_chained (desk.sendFor_seen seen payer contract .sendMint
      (desk.mintSubmits_seen seen payer contract destination id request.uri)
      ("Mint token " ++ Amount.decimal id ++ " to " ++ destination.checksummed))
      fun sent => desk.confirm_quiet seen sent true
    simp only [sendFor, bind_assoc, pure_bind] at minted
    exact minted

theorem mint_onNode (request : MintRequest) :
    OnNode trace desk.settings.rpcUrl (desk.mint request) fun chain => Mints desk.settings chain request := by
  rw [mint, token_bind]
  refine .chained (.yields _) fun contract => ?_
  cases desk.settings.kind with
  | fungible => exact .of_beside ((trace.beside Session).emits_throw_bind _ _)
  | nonFungible =>
    refine .bindExcept (fun _ _ failed => nomatch failed) ?_
    rintro _ ⟨⟩
    refine .chained (.yields _) fun payer => .chained
      (.of_kept (emits_during (desk.asksContract_kept seen contract _ _ _))) fun isMinter => ?_
    cases isMinter with
    | false => exact .of_beside ((trace.beside Session).emits_throw_bind _ _)
    | true =>
      exact .chained (desk.parseAddress_resolves seen request.destination) fun destination =>
        .of_beside (desk.mintTo_seen seen contract payer destination request)

theorem sayTokens_seen (contract : Address) (symbol : String) (owner : Address) :
    (trace.beside Session).Emits (desk.sayTokens ⟨desk.contractAt contract⟩ symbol owner).run
      (ShowsTokensOf desk.settings contract symbol owner) := by
  refine Trace.emits_after_kept (desk.readsBalance_kept seen contract owner) fun count =>
    (trace.beside Session).emits_chained (desk.says_seen seen _) fun _ => ?_
  by_cases none_owned : count = 0
  · rw [if_neg (not_not_intro none_owned)]
    refine (trace.beside Session).emits_pure_run ?_
    rw [ListsTokensOf, if_pos none_owned]
    exact ⟨rfl, rfl⟩
  · rw [if_pos none_owned]
    refine (trace.beside Session).emits_bind_lift_run (Trace.beside_of_keeping
      (desk.asksContract_kept seen contract "tokensOfOwner(address)" [.address owner] Abi.decodeUintArray)) ?_
    -- A contract that cannot list its tokens is no failure, so both answers go on.
    intro asked answer asks
    cases answer with
    | ok ids =>
      refine (trace.beside Session).emits_mono (desk.says_seen seen _) ?_
      rintro _ _ ⟨rfl, rfl⟩
      rw [ListsTokensOf, if_neg none_owned]
      exact ⟨asked, .ok ids, rfl, rfl, asks⟩
    | error cause =>
      refine (trace.beside Session).emits_pure_run ?_
      rw [ListsTokensOf, if_neg none_owned]
      exact ⟨asked, .error cause, rfl, rfl, asks⟩

theorem balance_onNode {texts : List String} (given : texts ≠ []) :
    OnNode trace desk.settings.rpcUrl (desk.balance texts) fun chain => ShowsBalances desk.settings chain texts := by
  rw [balance, token_bind]
  refine .chained (.yields _) fun contract => .chained (desk.owners_resolves seen given) fun owners =>
    .chained (.of_kept (desk.readsSymbol_kept seen contract)) fun symbol => .of_beside ?_
  cases desk.settings.kind with
  | fungible =>
    refine Trace.emits_after_kept (desk.readsDecimals_kept seen contract) fun decimals =>
      (trace.beside Session).emits_forM (fun owner => ?_) owners
    exact Trace.emits_after_kept (desk.readsBalance_kept seen contract owner) fun amount => desk.says_seen seen _
  | nonFungible => exact (trace.beside Session).emits_forM (desk.sayTokens_seen seen contract symbol) owners

theorem sayAccount_seen (unit : Option NativeUnit) (account : Address) :
    (trace.beside Session).Emits (desk.sayAccount unit account).run (ShowsAccount desk.settings unit account) := by
  have asked := desk.client.askText_seen seen.web "eth_getBalance" [.string account.lower, .string "latest"]
    Rpc.parseAmount
  refine (trace.beside Session).emits_chained ((trace.beside Session).emits_adapt_run
    ((trace.beside Session).emits_mono asked ?_)) fun balance =>
      (trace.beside Session).emits_chained (desk.says_seen seen _) fun _ =>
        (trace.beside Session).emits_pure_run ⟨rfl, rfl⟩
  rintro log _ ⟨reply, rfl, posts⟩
  exact ⟨reply, posts, rfl⟩

theorem accounts_onNode {request : AccountsRequest} (given : request.addresses ≠ []) :
    OnNode trace desk.settings.rpcUrl (desk.accounts request) fun chain =>
      ShowsAccounts desk.settings chain request := by
  refine .chained (.yields _) fun unit => .chained (desk.accountsToShow_resolves seen given) fun accounts =>
    .of_beside ((trace.beside Session).emits_chained
      ((trace.beside Session).emits_mapM (desk.sayAccount_seen seen unit) accounts) fun balances => ?_)
  split
  · exact desk.sayAll_seen seen _
  · exact (trace.beside Session).emits_pure_run ⟨rfl, rfl⟩

theorem readsPlan_onNode {α : Type} (decimals : Decimals) (path source : String) {pays : Plan → Action m α}
    {Pays : Plan → List HostEvent → Except Failure α → Prop}
    (emits : ∀ plan, (trace.beside Session).Emits (pays plan).run (Pays plan)) :
    OnNode trace desk.settings.rpcUrl (do
      let chain ← batchChain desk
      let plan ← liftM <| (Plan.ofSource (.on desk.settings.blockchain decimals chain) source).mapError
        fun cause => Failure.during (.parseBatchFile path) (.plan cause)
      pays plan) fun chain => Chained (ReadsPlan desk.settings chain decimals path source) Pays := by
  refine .mono (.chained (desk.batchChain_learns seen) fun found =>
    .chained (.yields _) fun plan => .of_beside (emits plan)) ?_
  -- The question for the chain goes with the reading of the file, as its answer has no other use.
  rintro chain _ _ (⟨-, -, ⟨⟩⟩ | ⟨⟨asks, tagged, ⟨rfl⟩⟩, ⟨rfl, read⟩ | ⟨⟨rfl, read⟩, pays⟩⟩)
  · rw [List.append_nil]
    exact .stopped (readsPlan_of_asks decimals path source asks tagged read)
  · exact .continued (readsPlan_of_asks decimals path source asks tagged read) pays

theorem batchPay_onNode (request : BatchPayRequest) :
    OnNode trace desk.settings.rpcUrl (desk.batchPay request) fun chain => PaysListed desk.settings chain request := by
  rw [batchPay, token_bind]
  refine .chained (.yields _) fun contract => ?_
  cases desk.settings.kind with
  | nonFungible => exact .of_beside ((trace.beside Session).emits_throw_bind _ _)
  | fungible =>
    refine .bindExcept (fun _ _ failed => nomatch failed) ?_
    rintro _ ⟨⟩
    exact .chained (.yields _) fun payer => .chained (.of_kept (desk.readsFile_kept seen request.path)) fun source =>
      .chained (.of_kept (desk.readsDecimals_kept seen contract)) fun decimals =>
        .chained (.of_kept (desk.readsSymbol_kept seen contract)) fun symbol =>
          desk.readsPlan_onNode seen decimals request.path source fun plan =>
            desk.paySheet_seen seen request { contract, payer, decimals, symbol, plan }

end Desk

/-! All of them on one node. -/

/-- Whatever a command is given as a destination stands for the address that it stands for in a batch file, and what
the command does is decided by this address. -/
structure DestinationsAgree {m : Type → Type} [Monad m] (trace : Trace m HostEvent) (desk : Desk m) : Prop where
  /-- The node is asked only for texts that cannot be read without its chain. -/
  asked : ∀ text session, trace.Emits ((desk.parseAddress text).run.run session) fun log _ =>
    log = [] ∨ session.network = none ∧ desk.settings.NeedsChain text ∧
      ∃ reply, Rpc.Posts desk.settings.rpcUrl "net_version" [] reply log
  typed : ∀ text, Learns trace desk.settings.rpcUrl (desk.parseAddress text) fun chain =>
    Resolves desk.settings chain text
  listed : ∀ chain decimals line address amount,
    Plan.Asks { decimals, taggedChain := desk.settings.taggedChain chain } line address amount ↔
      ∃ addressField amountField, Plan.IsPair line addressField amountField ∧
        desk.settings.destination chain (String.ofList addressField) = .ok address ∧
        Amount.parse decimals (String.ofList amountField) = .ok amount
  batchPay : ∀ request, OnNode trace desk.settings.rpcUrl (desk.batchPay request) fun chain =>
    PaysListed desk.settings chain request
  pay : ∀ request, OnNode trace desk.settings.rpcUrl (desk.pay request) fun chain =>
    PaysOne desk.settings chain request
  mint : ∀ request, OnNode trace desk.settings.rpcUrl (desk.mint request) fun chain =>
    Mints desk.settings chain request
  balance : ∀ texts, texts ≠ [] → OnNode trace desk.settings.rpcUrl (desk.balance texts) fun chain =>
    ShowsBalances desk.settings chain texts
  accounts : ∀ request, request.addresses ≠ [] → OnNode trace desk.settings.rpcUrl (desk.accounts request) fun chain =>
    ShowsAccounts desk.settings chain request
  /-- No text has both forms, and one that is not hexadecimal is what is written for its address and the chain. -/
  forms : ∀ text, (∀ chain address other,
      ¬ (Address.parseHex text = .ok address ∧ Address.parseTagged chain text = .ok other)) ∧
    ∀ chain address, desk.settings.destination chain text = .ok address →
      (∀ other, Address.parseHex text ≠ .ok other) →
        desk.settings.blockchain.hasTaggedAddresses ∧ text = address.tagged chain

/-- Whatever host there is, the commands read their destinations as a batch file on the same node has them read. -/
theorem Desk.destinations_agree {σ : Type} (host : Host (StateM σ)) (settings : Settings) :
    DestinationsAgree (.journal HostEvent σ) { settings, host := host.recorded } where
  asked text session := (Trace.journal HostEvent σ).emits_mono
    (Desk.parseAddress_from host.recorded_seen text session) fun _ _ => And.left
  typed := Desk.parseAddress_resolves host.recorded_seen
  listed _ _ _ _ _ := Iff.rfl
  batchPay := Desk.batchPay_onNode host.recorded_seen
  pay := Desk.pay_onNode host.recorded_seen
  mint := Desk.mint_onNode host.recorded_seen
  balance _ := Desk.balance_onNode host.recorded_seen
  accounts _ := Desk.accounts_onNode host.recorded_seen
  forms := Address.destination_forms settings

def reportingReply (body : Json) : HttpReply where
  status := 200
  body :=
    if (body.member? "method").bind Rpc.text? = some "net_version" then "\x7b\"result\":\"1007\"\x7d"
    else "\x7b\"result\":\"0x0\"\x7d"

def reportingHost : Host (StateM Unit) where
  files := {
    isPresent _ := pure false
    readText _ := throw .notFound
    writeText _ _ := throw .notFound
    createFolders _ := throw .notFound }
  web := {
    post _ body := pure (.ok (reportingReply body))
    get _ := pure (.error "refused")
    sleep _ := pure () }
  say _ := pure ()
  askPassphrase _ := pure (.error "no terminal")

def reportingSettings : Settings :=
  { rpcUrl := "http://localhost", blockchain := .newChain, kind := .fungible
    contracts := { default? := none, book := .empty }, symbol := none, payer? := none, password := none }

def HostEvent.isReport : HostEvent → Bool
  | posted _ body (.ok reply) => reply = reportingReply body
  | posted _ _ (.error _) => false
  | _ => true

theorem reports_of_isReport {url : String} {log : List HostEvent} (answered : log.all HostEvent.isReport) :
    Rpc.Reports url (.ofNat 1007) log := by
  intro id reply listed
  have report := List.all_eq_true.mp answered _ listed
  match reply, report with
  | .ok reply, report =>
    have told : reportingReply (Rpc.request id "net_version" []) = ⟨200, "\x7b\"result\":\"1007\"\x7d"⟩ := rfl
    rw [of_decide_eq_true report, told]
    decide +kernel

def zeroRequest : AccountsRequest :=
  { unit := none, sums := false, addresses := ["NEW17zCMQXMA7yfdJYUQEeUQwKG6DnyStvX93a5"] }

def reportedRun : ((Except Failure Unit × Session) × List HostEvent) × Unit :=
  ((((Desk.mk reportingSettings reportingHost.recorded).accounts zeroRequest).run.run {}).run []).run ()

theorem Desk.destinations_agree_reporting :
    zeroRequest.addresses ≠ [] ∧ Rpc.Reports reportingSettings.rpcUrl (.ofNat 1007) reportedRun.1.2 ∧
      ShowsAccounts reportingSettings (.ofNat 1007) zeroRequest reportedRun.1.2 reportedRun.1.1.1 := by
  have given : zeroRequest.addresses ≠ [] := List.cons_ne_nil _ _
  have answered : reportedRun.1.2.all HostEvent.isReport = true := by decide +kernel
  obtain ⟨log, ⟨result, after⟩, ⟨⟩, ran, holds⟩ :=
    (Desk.destinations_agree reportingHost reportingSettings).accounts zeroRequest given {} [] ()
  have same : reportedRun = (((result, after), [] ++ log), ()) := ran
  rw [same] at answered ⊢
  have reports : Rpc.Reports reportingSettings.rpcUrl (.ofNat 1007) log := reports_of_isReport answered
  exact ⟨given, reports, holds (.ofNat 1007) (by rintro _ ⟨⟩) reports⟩

end TokenDesk
