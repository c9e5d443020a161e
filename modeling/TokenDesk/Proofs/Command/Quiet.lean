import TokenDesk.Command
import TokenDesk.Proofs.Desk.Quiet

/-! The commands that only read. -/

set_option autoImplicit false

namespace TokenDesk

open Rpc (Quiet Session)

variable {m : Type → Type} [Monad m] {trace : Trace m HostEvent}

section
variable {host : Host m} (seen : host.IsSeen trace)
include seen

theorem isPresent_quiet (path : String) : trace.Emits (host.files.isPresent path) fun log _ => Quiet log :=
  trace.emits_mono (seen.isPresent path) fun _ _ same => Rpc.quiet_of_calls_eq_nil (by rw [same]; rfl)

theorem readText_quiet (path : String) : IsQuiet trace (host.files.readText path) :=
  trace.emits_mono (seen.readText path) fun _ _ same => Rpc.quiet_of_calls_eq_nil (by rw [same]; rfl)

theorem writeText_quiet (path text : String) : IsQuiet trace (host.files.writeText path text) :=
  trace.emits_mono (seen.writeText path text) fun _ _ same => Rpc.quiet_of_calls_eq_nil (by rw [same]; rfl)

theorem createFolders_quiet (path : String) : IsQuiet trace (host.files.createFolders path) :=
  trace.emits_mono (seen.createFolders path) fun _ _ same => Rpc.quiet_of_calls_eq_nil (by rw [same]; rfl)

variable [LawfulMonad m]

theorem SettingsFile.save_quiet (path : String) (file : SettingsFile) :
    IsQuiet trace (file.save host.files path) := by
  rw [SettingsFile.save]
  cases Path.parent? path with
  | some folder => exact .bind (.adapt (createFolders_quiet seen folder) _) fun _ => .adapt (writeText_quiet seen _ _) _
  | none => exact .adapt (writeText_quiet seen _ _) _

theorem Host.initSettings_quiet (flags : Flags) (path : String) (force : Bool) :
    IsQuiet trace (host.initSettings flags path force) := by
  have written : IsQuiet trace (do
      let file ← liftM (SettingsFile.initial flags)
      file.save host.files path
      host.say ("Initialize settings file " ++ path) : ExceptT Failure m Unit) :=
    .bindExcept fun file _ => .bind (SettingsFile.save_quiet seen path file) fun _ =>
      .lift (trace.emits_mono (seen.say _) fun _ _ same => Rpc.quiet_of_calls_eq_nil (by rw [same]; rfl))
  refine .bind (.lift (isPresent_quiet seen path)) fun present => ?_
  split
  · exact .bindThrow _ _
  · exact written

end

namespace Token

variable {n : Type → Type} {token : Token n} {capability : String}

theorem asFungible_eq_ok {fungible : Erc20 n} (same : token.asFungible capability = .ok fungible) :
    token.kind = .fungible ∧ fungible = ⟨token.contract⟩ := by
  rw [asFungible] at same
  cases kind : token.kind <;> rw [kind] at same <;> cases same
  exact ⟨rfl, rfl⟩

theorem asNonFungible_eq_ok {nft : Erc721 n} (same : token.asNonFungible capability = .ok nft) :
    token.kind = .nonFungible ∧ nft = ⟨token.contract⟩ := by
  rw [asNonFungible] at same
  cases kind : token.kind <;> rw [kind] at same <;> cases same
  exact ⟨rfl, rfl⟩

end Token

namespace Desk

variable [LawfulMonad m] {desk : Desk m} (seen : desk.host.IsSeen trace)
include seen

theorem convert_quiet (request : ConvertRequest) : IsQuiet (trace.beside Session) (desk.convert request) := by
  rw [convert]
  cases request.chain with
  | some number => exact .bind (.pure _) fun _ => .bindExcept fun _ _ => desk.say_quiet seen _
  | none => exact .bind (desk.chainId_quiet seen) fun _ => .bindExcept fun _ _ => desk.say_quiet seen _

theorem sayAccount_quiet (unit : Option NativeUnit) (account : Address) :
    IsQuiet (trace.beside Session) (desk.sayAccount unit account) :=
  .bind (.adapt (desk.clientBalance_quiet seen account) _) fun _ =>
    .bind (desk.say_quiet seen _) fun _ => .pure _

theorem accountsToShow_quiet (given : List String) :
    IsQuiet (trace.beside Session) (desk.accountsToShow given) := by
  rw [accountsToShow]
  split
  · exact .mapM fun text => desk.parseAddress_quiet seen text
  · refine .bind (.adapt (desk.clientAccounts_quiet seen) _) fun accounts => ?_
    split
    · exact .bind (.liftExcept _) fun payer => .pure [payer]
    · exact .pure accounts

theorem accounts_quiet (request : AccountsRequest) : IsQuiet (trace.beside Session) (desk.accounts request) := by
  refine .bindExcept fun unit _ => .bind (desk.accountsToShow_quiet seen _) fun accounts =>
    .bind (.mapM fun account => desk.sayAccount_quiet seen unit account) fun balances => ?_
  split
  · exact desk.sayAll_quiet seen _
  · exact .pure _

theorem validAddresses_quiet (given : List String) :
    IsQuiet (trace.beside Session) (desk.validAddresses given) := by
  induction given with
  | nil => exact .pure []
  | cons text rest ih =>
    refine .bind (.tryCatch (.map (desk.parseAddress_quiet seen text) some) fun _ => .pure none) fun first => ?_
    exact .bind ih fun others => .pure _

theorem owners_quiet (given : List String) : IsQuiet (trace.beside Session) (desk.owners given) := by
  rw [owners]
  split
  · exact .bind (.liftExcept _) fun payer => .pure [payer]
  · refine .bind (desk.validAddresses_quiet seen given) fun addresses => ?_
    split
    · exact .bindThrow _ _
    · exact .pure _

theorem sayTokens_quiet (contract : Address) (symbol : String) (owner : Address) :
    IsQuiet (trace.beside Session) (desk.sayTokens ⟨desk.contractAt contract⟩ symbol owner) := by
  refine .bind (.adapt (desk.ask_quiet seen contract _ _ _) _) fun count =>
    .bind (desk.say_quiet seen _) fun _ => ?_
  split
  · refine .bind (.lift (desk.ask_quiet seen contract _ _ _)) fun answer => ?_
    cases answer with
    | ok ids => exact desk.say_quiet seen _
    | error cause => exact .pure _
  · exact .pure _

theorem balance_quiet (given : List String) : IsQuiet (trace.beside Session) (desk.balance given) := by
  refine .bindExcept fun token named => ?_
  obtain ⟨contract, -, rfl⟩ := token_eq_ok_iff.mp named
  refine .bind (desk.owners_quiet seen given) fun owners =>
    .bind (.adapt (desk.ask_quiet seen contract _ _ _) _) fun symbol => ?_
  cases desk.settings.kind with
  | fungible =>
    refine .bind (.adapt (desk.decimals_quiet seen contract) _) fun decimals => .forM fun owner => ?_
    exact .bind (.adapt (desk.ask_quiet seen contract _ _ _) _) fun amount => desk.say_quiet seen _
  | nonFungible => exact .forM fun owner => desk.sayTokens_quiet seen contract symbol owner

theorem summary_quiet (contract : Address) (kind : TokenKind) :
    IsQuiet (trace.beside Session) (Token.summary ⟨kind, desk.contractAt contract⟩) := by
  rw [Token.summary]
  have others (decimals : Option Decimals) := IsQuiet.bind (desk.ask_quiet seen contract "name()" [] Abi.decodeString)
    fun name => .bind (desk.ask_quiet seen contract "symbol()" [] Abi.decodeString)
      fun symbol => .bind (desk.ask_quiet seen contract "totalSupply()" [] Abi.decodeUint)
        fun totalSupply => .pure
          (TokenSummary.mk kind contract name symbol decimals totalSupply)
  cases kind with
  | fungible => exact .bind (.map (desk.decimals_quiet seen contract) some) others
  | nonFungible => exact .bind (.pure none) others

theorem sayMetadata_quiet (uri : String) : IsQuiet (trace.beside Session) (desk.sayMetadata uri) := by
  have got : trace.Emits (desk.host.web.get uri) fun log _ => Quiet log :=
    trace.emits_mono (seen.web.get uri) fun _ _ same => Rpc.quiet_of_calls_eq_nil (by rw [same]; rfl)
  refine .bind (.liftHost got) fun reply => ?_
  cases reply with
  | ok reply =>
    dsimp only
    split
    · exact desk.say_quiet seen _
    · exact .pure _
  | error text => exact .pure _

theorem tokenInfo_quiet (contract : Address) (id : Amount) :
    IsQuiet (trace.beside Session) (desk.tokenInfo ⟨desk.contractAt contract⟩ id) := by
  refine .bind (.adapt (desk.ask_quiet seen contract _ _ _) _) fun isPresent => ?_
  split
  · exact desk.say_quiet seen _
  · refine .bind (.adapt (desk.ask_quiet seen contract _ _ _) _) fun owner =>
      .bind (.adapt (desk.ask_quiet seen contract _ _ _) _) fun uri => .bind (desk.sayAll_quiet seen _) fun _ => ?_
    split
    · exact desk.sayMetadata_quiet seen uri
    · exact .pure _

theorem info_quiet (tokenId : Option String) : IsQuiet (trace.beside Session) (desk.info tokenId) := by
  refine .bindExcept fun token named => ?_
  obtain ⟨contract, -, rfl⟩ := token_eq_ok_iff.mp named
  refine .bind (.adapt (desk.summary_quiet seen contract _) _) fun summary => ?_
  refine .bind (desk.sayAll_quiet seen _) fun _ => ?_
  cases tokenId with
  | none => exact .pure _
  | some text =>
    refine .bindExcept fun nft same => .bindExcept fun id _ => ?_
    obtain ⟨-, rfl⟩ := Token.asNonFungible_eq_ok (mapError_eq_ok_iff.mp same)
    exact desk.tokenInfo_quiet seen contract id

theorem add_quiet (file : SettingsFile) (path : String) (request : AddRequest) :
    IsQuiet (trace.beside Session) (desk.add file path request) := by
  refine .bindExcept fun address _ => .bind ?_ fun symbol => .bindExcept fun ⟨addition, changed⟩ _ => ?_
  · cases request.symbol with
    | some symbol => exact .pure symbol
    | none => exact .adapt (desk.ask_quiet seen address _ _ _) _
  · cases addition with
    | added => exact .bind (.ofHost (SettingsFile.save_quiet seen path changed)) fun _ => desk.say_quiet seen _
    | alreadyPresent => exact desk.say_quiet seen _

theorem batchChain_quiet : IsQuiet (trace.beside Session) desk.batchChain := by
  rw [batchChain]
  split
  · exact desk.chainId_quiet seen
  · exact .pure _

end Desk

end TokenDesk
