import TokenDesk.Proofs.Command.Outline
import TokenDesk.Proofs.Command.Quiet
import TokenDesk.Proofs.Desk.Sending

/-! When commands send transactions.

Transactions are sent for the configured payer only, after the node said that it
unlocked this account, for which it is asked twice at most. A single token is minted
by a minter, and only if it is not there yet.
-/

set_option autoImplicit false

namespace TokenDesk

open Rpc (Call IsRead Quiet Session)

namespace Command

/-- How many transactions a command may send. A batch may be of any length. -/
def sendLimit : Command → Option Nat
  | .batchPay _ => none
  | .pay _ => some 1
  | .mint _ => some 1
  | .create _ => some 1
  | .init _ => some 0
  | .version => some 0
  | .info _ => some 0
  | .balance _ => some 0
  | .add _ => some 0
  | .convert _ => some 0
  | .accounts _ => some 0

end Command

def mintData (destination : Address) (id : Amount) : Option String → Except ContractError (List UInt8)
  | some uri =>
    Contract.dataOf "mintWithTokenURI(address,uint256,string)" [.address destination, .uint id, .string uri]
  | none => Contract.dataOf "mint(address,uint256)" [.address destination, .uint id]

def CarriesMint (destination : Address) (id : Amount) (uri : Option String) (call : Call) : Prop :=
  ∃ data, mintData destination id uri = .ok data ∧ call.data? = some (Rpc.bytesText data)

structure IsMinting (destination : Address) (id : Amount) (uri : Option String) (payer : Address)
    (sent : List HostEvent) : Prop where
  sending : IsSending payer (some 1) sent
  carries : ∀ call ∈ Rpc.calls sent, call.isSend → CarriesMint destination id uri call

theorem IsMinting.append_quiet {destination : Address} {id : Amount} {uri : Option String} {payer : Address}
    {sent more : List HostEvent} (minting : IsMinting destination id uri payer sent) (quiet : Quiet more) :
    IsMinting destination id uri payer (sent ++ more) where
  sending := minting.sending.append_quiet quiet
  carries call listed send := by
    rw [Rpc.calls_append, List.mem_append] at listed
    exact listed.elim (fun early => minting.carries call early send) fun late => absurd send (quiet.not_isSend late)

/-- What a command sends for the payer, by what it read before. -/
structure Command.Sends (settings : Settings) (command : Command) (payer : Address) (read sent : List HostEvent) :
    Prop where
  sending : IsSending payer command.sendLimit sent
  mints : ∀ request, command = .mint request → ∃ contract destination id, settings.contractAddress = .ok contract ∧
    IsRead contract "isMinter(address)" [.address payer] Abi.decodeBool true read ∧
    IsRead contract "exists(uint256)" [.uint id] Abi.decodeBool false read ∧
    IsMinting destination id request.uri payer sent

theorem IsOutlined.thenQuiet {n : Type → Type} [Monad n] {ε α β : Type} {trace : Trace n HostEvent}
    {payer? : Option Address} {limit : Option Nat} {first : ExceptT ε n α} {next : α → ExceptT ε n β}
    (outlined : IsOutlined trace payer? (fun payer _ => IsSending payer limit) first)
    (quiet : ∀ value, IsQuiet trace (next value)) :
    IsOutlined trace payer? (fun payer _ => IsSending payer limit) (first >>= next) :=
  IsQuiet.follow outlined (fun outline silent => Outline.append_quiet outline silent fun _ _ _ sends =>
    sends.append_quiet silent) quiet

namespace Desk

variable {m : Type → Type} [Monad m] [LawfulMonad m] {trace : Trace m HostEvent} {desk : Desk m}
  (seen : desk.host.IsSeen trace)
include seen

theorem payUnits_outlined {payer : Address} (configured : desk.settings.payer? = some payer)
    (contract destination : Address) (text : String) :
    IsOutlined (trace.beside Session) desk.settings.payer? (fun payer _ => IsSending payer (some 1))
      (desk.payUnits ⟨desk.contractAt contract⟩ payer destination text) := by
  refine .afterQuiet (.adapt (desk.decimals_quiet seen contract) _) fun decimals =>
    .afterQuiet (.adapt (desk.ask_quiet seen contract _ _ _) _) fun symbol =>
      .afterQuiet (.adapt (desk.ask_quiet seen contract _ _ _) _) fun balance => .bindExcept fun amount _ => ?_
  refine .unlock seen configured fun _ => IsQuiet.follow ?_ IsSending.append_quiet fun sent =>
    .bind (desk.say_quiet seen _) fun _ => .pure sent
  exact (trace.beside Session).emits_adapt_run ((trace.beside Session).emits_mono
    (desk.transact_seen seen contract payer _ _) fun _ _ holds => holds.1)

theorem payToken_outlined {payer : Address} (configured : desk.settings.payer? = some payer)
    (contract destination : Address) (text : String) :
    IsOutlined (trace.beside Session) desk.settings.payer? (fun payer _ => IsSending payer (some 1))
      (desk.payToken ⟨desk.contractAt contract⟩ payer destination text) := by
  have paid (id : Amount) : IsOutlined (trace.beside Session) desk.settings.payer?
      (fun payer _ => IsSending payer (some 1)) (do
      desk.unlock payer
      let sent ← Action.ofContract .sendTransfer
        ((Erc721.mk (desk.contractAt contract)).transferFrom (.of payer) payer destination id)
      desk.say ("Pay token " ++ Amount.decimal id ++ " from " ++ payer.checksummed ++ " to " ++ destination.checksummed)
      return sent) := by
    refine .unlock seen configured fun _ => IsQuiet.follow ?_ IsSending.append_quiet fun sent =>
      .bind (desk.say_quiet seen _) fun _ => .pure sent
    exact (trace.beside Session).emits_adapt_run ((trace.beside Session).emits_mono
      (desk.transact_seen seen contract payer _ _) fun _ _ holds => holds.1)
  refine .bindExcept fun id _ => .afterQuiet (.adapt (desk.ask_quiet seen contract _ _ _) _) fun owner => ?_
  split
  · exact .afterQuiet (desk.say_quiet seen _) fun _ => paid id
  · exact paid id

theorem pay_outlined (request : PayRequest) :
    IsOutlined (trace.beside Session) desk.settings.payer? (fun payer _ => IsSending payer (some 1))
      (desk.pay request) := by
  refine .bindExcept fun token named => .bindExcept fun payer configured =>
    .afterQuiet (desk.parseAddress_quiet seen _) fun destination => ?_
  obtain ⟨contract, -, rfl⟩ := token_eq_ok_iff.mp named
  have known := Settings.payer_eq_ok_iff.mp configured
  have confirmed (sent : Sent) := desk.confirm_quiet seen sent request.waits
  cases desk.settings.kind with
  | fungible => exact .thenQuiet (desk.payUnits_outlined seen known contract destination request.amount) confirmed
  | nonFungible => exact .thenQuiet (desk.payToken_outlined seen known contract destination request.amount) confirmed

theorem batchPay_outlined (request : BatchPayRequest) :
    IsOutlined (trace.beside Session) desk.settings.payer? (fun payer _ => IsSending payer none)
      (desk.batchPay request) := by
  refine .bindExcept fun token named => .bindExcept fun erc20 same => .bindExcept fun payer configured =>
    .afterQuiet (.ofHost (.adapt (readText_quiet seen request.path) _)) fun source => ?_
  obtain ⟨contract, -, rfl⟩ := token_eq_ok_iff.mp named
  obtain ⟨-, rfl⟩ := Token.asFungible_eq_ok (mapError_eq_ok_iff.mp same)
  refine .afterQuiet (.adapt (desk.decimals_quiet seen contract) _) fun decimals =>
    .afterQuiet (.adapt (desk.ask_quiet seen contract _ _ _) _) fun symbol =>
      .afterQuiet (desk.batchChain_quiet seen) fun chain => .bindExcept fun plan _ =>
        .afterQuiet (desk.sayAll_quiet seen _) fun _ =>
          .unlock seen (Settings.payer_eq_ok_iff.mp configured) fun _ => ?_
  refine IsQuiet.follow ((trace.beside Session).emits_lift_run (desk.execute_isSending seen contract _ plan))
    IsSending.append_quiet fun report => ?_
  exact .bind (desk.sayAll_quiet seen _) fun _ => .bind (.liftExcept _) fun _ => .pure _

theorem readBytecode_quiet (path : String) : IsQuiet trace (readBytecode desk.host.files path) :=
  .bind (.adapt (readText_quiet seen path) _) fun _ => .liftExcept _

theorem create_outlined (file : SettingsFile) (path : String) (request : CreateRequest) :
    IsOutlined (trace.beside Session) desk.settings.payer? (fun payer _ => IsSending payer (some 1))
      (desk.create file path request) := by
  rw [Desk.create]
  cases desk.settings.symbol with
  | none => exact .of_quiet (.throw _)
  | some symbol =>
    refine .bindExcept fun params _ => .afterQuiet (.ofHost (desk.readBytecode_quiet seen _)) fun bytecode =>
      .bindExcept fun payer configured => .unlock seen (Settings.payer_eq_ok_iff.mp configured) fun _ => ?_
    refine IsQuiet.follow ((trace.beside Session).emits_adapt_run (desk.deploy_seen seen payer _ bytecode params))
      IsSending.append_quiet fun sent => ?_
    refine .bind (desk.say_quiet seen _) fun _ => .bind (desk.receipt_quiet seen _) fun receipt =>
      .bindExcept fun contract _ => .bind (desk.say_quiet seen _) fun _ => .bind (desk.say_quiet seen _) fun _ => ?_
    cases file.remember? contract request.saves with
    | none => exact .pure _
    | some changed =>
      exact .bind (.ofHost (SettingsFile.save_quiet seen path changed)) fun _ => desk.say_quiet seen _

theorem idToMint_quiet (contract : Address) (given : Option String) :
    IsQuiet (trace.beside Session) (idToMint ⟨desk.contractAt contract⟩ given) := by
  cases given with
  | some text => exact .liftExcept _
  | none => exact .adapt (desk.ask_quiet seen contract _ _ _) _

theorem sendMint_seen (contract payer destination : Address) (id : Amount) (uri : Option String) :
    (trace.beside Session).Emits (sendMint ⟨desk.contractAt contract⟩ (.of payer) destination id uri).run fun log _ =>
      IsMinting destination id uri payer log := by
  cases uri with
  | some uri =>
    exact (trace.beside Session).emits_mono (desk.transact_seen seen contract payer _ _) fun _ _ ⟨sending, carries⟩ =>
      ⟨sending, carries⟩
  | none =>
    exact (trace.beside Session).emits_mono (desk.transact_seen seen contract payer _ _) fun _ _ ⟨sending, carries⟩ =>
      ⟨sending, carries⟩

def MintsAbsent (contract : Address) (uri : Option String) (payer : Address) (read sent : List HostEvent) : Prop :=
  ∃ destination id, IsRead contract "exists(uint256)" [.uint id] Abi.decodeBool false read ∧
    IsMinting destination id uri payer sent

omit seen in
theorem MintsAbsent.after {contract : Address} {uri : Option String} (log : List HostEvent) (payer : Address)
    (read sent : List HostEvent) (mints : MintsAbsent contract uri payer read sent) :
    MintsAbsent contract uri payer (log ++ read) sent := by
  obtain ⟨destination, id, absent, minting⟩ := mints
  exact ⟨destination, id, .append (.inr absent), minting⟩

theorem mintAbsent_outlined {payer : Address} (configured : desk.settings.payer? = some payer)
    (contract destination : Address) (id : Amount) (uri : Option String) :
    IsOutlined (trace.beside Session) desk.settings.payer? (MintsAbsent contract uri) (do
      let isPresent ← Action.ofContract .checkExistence ((Erc721.mk (desk.contractAt contract)).exists id)
      if isPresent then throw (.refused (.tokenPresent id))
      desk.unlock payer
      let sent ← Action.ofContract .sendMint
        (sendMint ⟨desk.contractAt contract⟩ (.of payer) destination id uri)
      desk.say ("Mint token " ++ Amount.decimal id ++ " to " ++ destination.checksummed)
      desk.confirm sent true) := by
  -- The answer that there is no such token stays among what was read when the token is minted.
  refine .afterReading (desk.reading_seen seen _ contract _ _ _) fun isPresent => ?_
  cases isPresent with
  | true => exact .of_quiet (.bindThrow _ _)
  | false =>
    have minted : IsOutlined (trace.beside Session) desk.settings.payer?
        (fun payer _ sent => IsMinting destination id uri payer sent) (do
          desk.unlock payer
          let sent ← Action.ofContract .sendMint
            (sendMint ⟨desk.contractAt contract⟩ (.of payer) destination id uri)
          desk.say ("Mint token " ++ Amount.decimal id ++ " to " ++ destination.checksummed)
          desk.confirm sent true) := by
      refine .unlock seen configured fun _ => ?_
      refine IsQuiet.follow ((trace.beside Session).emits_adapt_run
        (desk.sendMint_seen seen contract payer destination id uri)) IsMinting.append_quiet fun sent => ?_
      exact .bind (desk.say_quiet seen _) fun _ => desk.confirm_quiet seen sent true
    exact minted.mono fun payer read sent _ minting log absent => ⟨destination, id, .append (.inl absent), minting⟩

theorem mint_outlined (request : MintRequest) :
    IsOutlined (trace.beside Session) desk.settings.payer? (Command.Sends desk.settings (.mint request))
      (desk.mint request) := by
  refine .bindExcept fun token named => .bindExcept fun nft same => .bindExcept fun payer configured => ?_
  obtain ⟨contract, found, rfl⟩ := token_eq_ok_iff.mp named
  obtain ⟨-, rfl⟩ := Token.asNonFungible_eq_ok (mapError_eq_ok_iff.mp same)
  have known := Settings.payer_eq_ok_iff.mp configured
  refine .afterReading (desk.reading_seen seen _ contract _ _ _) fun isMinter => ?_
  cases isMinter with
  | false => exact .of_quiet (.bindThrow _ _)
  | true =>
    -- The destination and the id are read between the two checks, which does not undo them.
    have minted := fun destination => IsOutlined.after (desk.idToMint_quiet seen contract request.tokenId)
      (fun id => desk.mintAbsent_outlined seen known contract destination id request.uri) MintsAbsent.after
    refine (IsOutlined.after (desk.parseAddress_quiet seen request.destination) minted MintsAbsent.after).mono ?_
    rintro account read sent same_account ⟨destination, id, absent, minting⟩ log minter
    obtain rfl : payer = account := Option.some.inj (known.symm.trans same_account)
    refine ⟨minting.sending, ?_⟩
    rintro _ ⟨⟩
    exact ⟨contract, destination, id, found, .append (.inl minter), .append (.inr absent), minting⟩

end Desk

/-! Every command. -/

/-- The run asks the node for nothing, or it loads settings and then has an outline. -/
def IsOutlinedAt (path : String) (flags : Flags) (command : Command) (log : List HostEvent) : Prop :=
  Quiet log ∨ ∃ loading rest settings, log = loading ++ rest ∧ LoadsSettings path flags loading (.ok settings) ∧
    Outline settings.payer? (command.Sends settings) rest

section
variable {m : Type → Type} [Monad m] [LawfulMonad m] {trace : Trace m HostEvent} {host : Host m}
  (seen : host.IsSeen trace)
include seen

theorem Command.atDesk_outlined {flags : Flags} {path : String} {command : Command}
    {action : SettingsFile → Desk m → Action m Unit}
    (acts : ∀ file settings, IsOutlined (trace.beside Session) settings.payer? (command.Sends settings)
      (action file { settings, host })) :
    trace.Emits (atDesk host flags path action).run fun log _ => IsOutlinedAt path flags command log := by
  refine trace.emits_mono (Command.atDesk_seen seen acts) ?_
  rintro _ result (failed | ⟨loaded, outline⟩)
  · exact .inl failed.isSilent.quiet
  · exact .inr ⟨_, _, _, rfl, loaded, outline⟩

theorem Command.run_outlined (flags : Flags) (path : String) (command : Command) :
    trace.Emits (command.run host flags path).run fun log _ => IsOutlinedAt path flags command log := by
  have quietly {action : SettingsFile → Desk m → Action m Unit}
      (quiet : ∀ file settings, IsQuiet (trace.beside Session) (action file { settings, host })) :
      trace.Emits (atDesk host flags path action).run fun log _ => IsOutlinedAt path flags command log :=
    Command.atDesk_outlined seen fun file settings => .of_quiet (quiet file settings)
  -- Seven commands only ask; the others send at the end of an outline.
  cases command with
  | init force => exact trace.emits_mono (Host.initSettings_quiet seen flags path force) fun _ _ => .inl
  | version =>
    refine trace.emits_lift_run (trace.emits_mono (seen.say versionLine) fun _ _ same => .inl ?_)
    exact Rpc.quiet_of_calls_eq_nil (by rw [same]; rfl)
  | info tokenId =>
    rw [run]
    refine quietly fun file settings => ?_
    exact Desk.info_quiet seen tokenId
  | balance addresses =>
    rw [run]
    refine quietly fun file settings => ?_
    exact Desk.balance_quiet seen addresses
  | add request =>
    rw [run]
    refine quietly fun file settings => ?_
    exact Desk.add_quiet seen file path request
  | convert request =>
    rw [run]
    refine quietly fun file settings => ?_
    exact Desk.convert_quiet seen request
  | accounts request =>
    rw [run]
    refine quietly fun file settings => ?_
    exact Desk.accounts_quiet seen request
  | pay request =>
    rw [run]
    refine Command.atDesk_outlined seen fun file settings => ?_
    exact (Desk.pay_outlined seen request).mono fun _ _ _ _ sending => ⟨sending, by rintro _ ⟨⟩⟩
  | batchPay request =>
    rw [run]
    refine Command.atDesk_outlined seen fun file settings => ?_
    exact (Desk.batchPay_outlined seen request).mono fun _ _ _ _ sending => ⟨sending, by rintro _ ⟨⟩⟩
  | create request =>
    rw [run]
    refine Command.atDesk_outlined seen fun file settings => ?_
    exact (Desk.create_outlined seen file path request).mono fun _ _ _ _ sending => ⟨sending, by rintro _ ⟨⟩⟩
  | mint request =>
    rw [run]
    refine Command.atDesk_outlined seen fun file settings => ?_
    exact Desk.mint_outlined seen request

end

/-- What has to come before a transaction that a command sends. -/
structure Command.Permits (command : Command) (settings : Settings) (before : List Call) (payer : Address)
    (call : Call) :
    Prop where
  configured : settings.payer? = some payer
  sender : call.sender? = some payer.lower
  unlocked : ∃ unlock ∈ before, unlock.Unlocks payer
  mints : ∀ request, command = .mint request → ∃ contract destination id, settings.contractAddress = .ok contract ∧
    (∃ asked ∈ before, asked.Reads contract "isMinter(address)" [.address payer] Abi.decodeBool true) ∧
    (∃ asked ∈ before, asked.Reads contract "exists(uint256)" [.uint id] Abi.decodeBool false) ∧
    CarriesMint destination id request.uri call

structure Command.Guards (command : Command) (path : String) (flags : Flags) (log : List HostEvent) : Prop where
  unlocks_le : (Rpc.calls log).countP Call.isUnlock ≤ 2
  sends_le : ∀ limit, command.sendLimit = some limit → (Rpc.calls log).countP Call.isSend ≤ limit
  permitted : ∀ before call after, Rpc.calls log = before ++ call :: after → call.isSend →
    ∃ loading rest settings payer, log = loading ++ rest ∧ LoadsSettings path flags loading (.ok settings) ∧
      command.Permits settings before payer call

namespace Command

variable {flags : Flags} {path : String} {command : Command} {log : List HostEvent}

theorem exists_behind {α : Type} {first second before after : List α} {item : α}
    (parts : first ++ second = before ++ item :: after) (absent : item ∉ first) :
    ∃ between, before = first ++ between ∧ second = between ++ item :: after := by
  rcases List.append_eq_append_iff.mp parts with ⟨between, before_eq, second_eq⟩ | ⟨rest, first_eq, second_eq⟩
  · exact ⟨between, before_eq, second_eq⟩
  · cases rest with
    | nil => exact ⟨[], by simpa using first_eq.symm, by simpa using second_eq.symm⟩
    | cons other rest =>
      cases second_eq
      exact absurd (by rw [first_eq]; simp) absent

theorem exists_between {quiet sent before after : List Call} {call : Call}
    (parts : quiet ++ sent = before ++ call :: after) (silent : ∀ other ∈ quiet, other.isSend = false)
    (send : call.isSend) : ∃ between, before = quiet ++ between ∧ sent = between ++ call :: after := by
  apply exists_behind parts
  intro listed
  rw [silent call listed] at send
  cases send

theorem Sends.permits {settings : Settings} {payer : Address} {read sent : List HostEvent}
    {before between after : List Call} {call : Call} (sends : command.Sends settings payer read sent)
    (configured : settings.payer? = some payer)
    (parts : Rpc.calls sent = between ++ call :: after) (send : call.isSend)
    (reads : ∀ earlier ∈ Rpc.calls read, earlier ∈ before) (unlocked : ∃ unlock ∈ before, unlock.Unlocks payer) :
    command.Permits settings before payer call := by
  have listed : call ∈ Rpc.calls sent := by
    rw [parts]
    exact List.mem_append_right _ List.mem_cons_self
  refine ⟨configured, sends.sending.sender call listed send, unlocked, fun request same => ?_⟩
  obtain ⟨contract, destination, id, named, ⟨minter, known, is_minter⟩, ⟨question, asked, absent⟩, minting⟩ :=
    sends.mints request same
  exact ⟨contract, destination, id, named, ⟨minter, reads _ known, is_minter⟩, ⟨question, reads _ asked, absent⟩,
    minting.carries call listed send⟩

theorem guards_of_unlocking (silent : IsUnlocking 2 log) : command.Guards path flags log where
  unlocks_le := silent.length_le
  sends_le limit _ := by
    rw [Rpc.countP_isSend_eq_zero silent.sends_nothing]
    exact Nat.zero_le _
  permitted before call after parts send := absurd send (silent.not_isSend (by simp [parts]))

theorem guards_of_sending {loading silent unlocking read sent : List HostEvent} {settings : Settings} {payer : Address}
    (loaded : LoadsSettings path flags loading (.ok settings)) (configured : settings.payer? = some payer)
    (unlocks : IsUnlocking 2 silent) (reads : ∀ call ∈ Rpc.calls read, call ∈ Rpc.calls silent)
    (unlocked : IsUnlocked payer silent) (sends : command.Sends settings payer read sent)
    (parts : log = loading ++ unlocking) (calls_eq : Rpc.calls log = Rpc.calls silent ++ Rpc.calls sent) :
    command.Guards path flags log where
  unlocks_le := by
    rw [calls_eq, List.countP_append, (List.countP_eq_zero (l := Rpc.calls sent)).mpr]
    · exact unlocks.length_le
    · exact fun call listed => by simp [sends.sending.unlocks_nothing call listed]
  sends_le limit same := by
    rw [calls_eq, List.countP_append, Rpc.countP_isSend_eq_zero unlocks.sends_nothing, Nat.zero_add]
    exact sends.sending.length_le limit same
  permitted before call after here send := by
    rw [calls_eq] at here
    obtain ⟨between, rfl, sent_eq⟩ := exists_between here unlocks.sends_nothing send
    obtain ⟨unlock, listed, said⟩ := unlocked
    exact ⟨loading, unlocking, settings, payer, parts, loaded, sends.permits configured sent_eq send
      (fun earlier known => List.mem_append_left _ (reads earlier known)) ⟨unlock, List.mem_append_left _ listed, said⟩⟩

theorem guards_of_outlined (outlined : IsOutlinedAt path flags command log) : command.Guards path flags log := by
  obtain quiet | ⟨loading, _, settings, rfl, loaded, outline⟩ := outlined
  · exact guards_of_unlocking (.of_quiet quiet 2)
  -- Loading the settings asks the node for nothing, so only the outline counts.
  have loading_quiet : Quiet loading := loaded.isSilent.quiet
  cases outline with
  | stopped quiet attempts =>
    rw [← List.append_assoc]
    exact guards_of_unlocking ((IsUnlocking.of_quiet (loading_quiet.append quiet) 0).append attempts)
  | @sending payer read unlocking sent configured quiet attempts unlocked sends =>
    have silent : IsUnlocking 2 (loading ++ read ++ unlocking) :=
      (IsUnlocking.of_quiet (loading_quiet.append quiet) 0).append attempts
    refine guards_of_sending loaded configured silent (fun call listed => ?_)
      (isUnlocked_append_iff.mpr (.inr unlocked)) sends rfl ?_
    · simp [listed]
    · simp

variable {σ : Type}

/-- Whatever node, terminal and files a command meets, its run is guarded. -/
theorem run_guards (host : Host (StateM σ)) (flags : Flags) (path : String) (command : Command) (state : σ) :
    ∃ result log after, ((command.run host.recorded flags path).run.run []).run state = ((result, log), after) ∧
      command.Guards path flags log := by
  obtain ⟨log, result, after, ran, outlined⟩ := run_outlined host.recorded_seen flags path command [] state
  exact ⟨result, log, after, ran, guards_of_outlined outlined⟩

end Command

end TokenDesk
