import TokenDesk.Command.BatchPay
import TokenDesk.Proofs.Batch.Source
import TokenDesk.Proofs.Command.Quiet
import TokenDesk.Proofs.Rpc.Network

/-! What a batch is made of.

A batch is read one thing after another: who pays with which contract, the text of
the file, what the contract says of its units, and the plan. Nothing is printed and
nobody is asked to do anything while it is read.
-/

set_option autoImplicit false

namespace TokenDesk

open Rpc (IsSilent Session)

structure BatchSheet where
  contract : Address
  payer : Address
  decimals : Decimals
  symbol : String
  plan : Plan

def NamesParties (settings : Settings) (log : List HostEvent) (result : Except Failure (Address × Address)) : Prop :=
  log = [] ∧ ∀ contract payer, result = .ok (contract, payer) ↔
    settings.contractAddress = .ok contract ∧ settings.kind = .fungible ∧ settings.payer? = some payer

def ReadsFile (path : String) (log : List HostEvent) (result : Except Failure String) : Prop :=
  ∃ text, log = [.readText path text] ∧ result = text.mapError fun fault => .during (.readBatchFile path) (.file fault)

/-- A contract is asked for something of its own, which the output of the call has. -/
def ReadsContract {α : Type} (url : String) (task : Task) (contract : Address) (signature : String)
    (value : Except TransportError (List UInt8) → Except ContractError α) (log : List HostEvent)
    (result : Except Failure α) : Prop :=
  ∃ reply, result = (value (Rpc.textOf "eth_call" Rpc.parseBytes reply)).mapError
      (fun cause => .during task (.contract cause)) ∧
    Rpc.Posts url "eth_call" [Rpc.callJson contract (Abi.selector signature), .string "pending"] reply log

def decimalsIn (output : Except TransportError (List UInt8)) : Except ContractError Decimals :=
  Contract.reading Abi.decodeUint8 output >>= fun places => (Decimals.ofNat places.toNat).mapError .amount

/-- The id of the network is asked for where a tagged address could have another. -/
def ReadsChain (settings : Settings) (log : List HostEvent) (result : Except Failure ChainId) : Prop :=
  if settings.blockchain.hasTaggedAddresses then
    ∃ answer, Rpc.Wire settings.rpcUrl (.networkId answer) log ∧
      result = answer.mapError fun cause => .during .getNetworkId (.transport cause)
  else log = [] ∧ result = .ok default

def ReadsTerms (settings : Settings) (path : String) (contract payer : Address) :
    List HostEvent → Except Failure BatchSheet → Prop :=
  Chained (ReadsFile path) fun source =>
    Chained (ReadsContract settings.rpcUrl .readDecimals contract "decimals()" decimalsIn) fun decimals =>
      Chained (ReadsContract settings.rpcUrl .readSymbol contract "symbol()" (Contract.reading Abi.decodeString))
        fun symbol => Chained (ReadsChain settings) fun chain log result =>
          log = [] ∧ result = ((Plan.ofSource (.on settings.blockchain decimals chain) source).mapError
            fun cause => Failure.during (.parseBatchFile path) (.plan cause)).map
              fun plan => { contract, payer, decimals, symbol, plan }

def ReadsSheet (settings : Settings) (path : String) : List HostEvent → Except Failure BatchSheet → Prop :=
  Chained (NamesParties settings) fun (contract, payer) => ReadsTerms settings path contract payer

theorem NamesParties.of_failed {settings : Settings} (cause : Failure)
    (unnamed : ∀ contract payer, ¬ (settings.contractAddress = .ok contract ∧ settings.kind = .fungible ∧
      settings.payer? = some payer)) : NamesParties settings [] (.error cause) :=
  ⟨rfl, fun contract payer => iff_of_false nofun (unnamed contract payer)⟩

theorem dataOf_nil (signature : String) : Contract.dataOf signature [] = .ok (Abi.selector signature) := by
  simp [Contract.dataOf, Abi.callData, Abi.Argument.encode, Abi.Argument.heads, Except.mapError]

theorem ReadsContract.isSilent {α : Type} {url : String} {task : Task} {contract : Address} {signature : String}
    {value : Except TransportError (List UInt8) → Except ContractError α} {log : List HostEvent}
    {result : Except Failure α} (reads : ReadsContract url task contract signature value log result) :
    IsSilent log := by
  obtain ⟨reply, -, posts⟩ := reads
  exact ⟨posts.quiet (by decide), posts.printed_eq_nil⟩

theorem ReadsChain.isSilent {settings : Settings} {log : List HostEvent} {result : Except Failure ChainId}
    (reads : ReadsChain settings log result) : IsSilent log := by
  unfold ReadsChain at reads
  split at reads
  · obtain ⟨answer, ⟨rfl, -⟩ | ⟨reply, -, posts⟩, -⟩ := reads
    · exact .nil
    · exact ⟨posts.quiet (by decide), posts.printed_eq_nil⟩
  · rw [reads.1]
    exact .nil

theorem ReadsSheet.isSilent {settings : Settings} {path : String} {log : List HostEvent}
    {result : Except Failure BatchSheet} (reads : ReadsSheet settings path log result) : IsSilent log := by
  have file {part : List HostEvent} {result : Except Failure String} (reads : ReadsFile path part result) :
      IsSilent part := by
    obtain ⟨text, rfl, -⟩ := reads
    exact ⟨Rpc.quiet_of_calls_eq_nil rfl, rfl⟩
  have nothing {part : List HostEvent} (same : part = []) : IsSilent part := by
    rw [same]
    exact .nil
  refine Chained.closed reads .append (fun names => nothing names.1) fun terms => ?_
  refine Chained.closed terms .append file fun later => ?_
  refine Chained.closed later .append ReadsContract.isSilent fun later => ?_
  refine Chained.closed later .append ReadsContract.isSilent fun later => ?_
  exact Chained.closed later .append ReadsChain.isSilent fun last => nothing last.1

theorem Plan.payments_ne_nil {rules : PlanRules} {source : String} {plan : Plan}
    (given : Plan.ofSource rules source = .ok plan) : plan.payments ≠ [] := by
  intro none_listed
  refine (Plan.ofLines_eq_ok_iff.mp given).total_ne_zero ?_
  rw [Plan.total, none_listed]
  rfl

theorem ReadsSheet.payments_ne_nil {settings : Settings} {path : String} {log : List HostEvent} {sheet : BatchSheet}
    (reads : ReadsSheet settings path log (.ok sheet)) : sheet.plan.payments ≠ [] := by
  obtain _ | ⟨-, terms⟩ := reads
  obtain _ | ⟨-, _ | ⟨-, _ | ⟨-, _ | ⟨-, -, same⟩⟩⟩⟩ := terms
  obtain ⟨plan, given, rfl⟩ := map_eq_ok_iff.mp same.symm
  exact Plan.payments_ne_nil (mapError_eq_ok_iff.mp given)

namespace Desk

variable {m : Type → Type} [Monad m]

def readTerms (desk : Desk m) (path : String) (contract payer : Address) : Action m BatchSheet := do
  let source ← Action.ofHost <| (desk.host.files.readText path).adapt fun fault =>
    .during (.readBatchFile path) (.file fault)
  let decimals ← Action.ofContract .readDecimals (Erc20.mk (desk.contractAt contract)).decimals
  let symbol ← Action.ofContract .readSymbol (desk.contractAt contract).symbol
  let chain ← batchChain desk
  let plan ← liftM <| (Plan.ofSource (.on desk.settings.blockchain decimals chain) source).mapError
    fun cause => Failure.during (.parseBatchFile path) (.plan cause)
  return { contract, payer, decimals, symbol, plan }

variable [LawfulMonad m] {trace : Trace m HostEvent} {desk : Desk m} (seen : desk.host.IsSeen trace)
include seen

theorem ask_kept {α : Type} (contract : Address) {signature : String} {arguments : List Abi.Argument}
    {data : List UInt8} (encoded : Contract.dataOf signature arguments = .ok data)
    (read : List UInt8 → Except Abi.Error α) :
    trace.keeping.Emits ((desk.contractAt contract).ask signature arguments read).run fun log result =>
      ∃ reply, result = Contract.reading read (Rpc.textOf "eth_call" Rpc.parseBytes reply) ∧
        Rpc.Posts desk.settings.rpcUrl "eth_call" [Rpc.callJson contract data, .string "pending"] reply log := by
  rw [Contract.ask, encoded, bind_liftM_ok]
  refine trace.keeping.emits_bind_adapt_run (desk.client.askText_kept seen.web "eth_call" _ Rpc.parseBytes) ?_ ?_
  · rintro log cause ⟨reply, failed, posts⟩
    exact ⟨reply, by rw [← failed]; rfl, posts⟩
  · rintro log output ⟨reply, given, posts⟩
    rw [← List.append_nil log] at posts
    exact trace.keeping.emits_liftM_run ⟨reply, by rw [← given]; rfl, posts⟩

theorem readsSymbol_kept (contract : Address) :
    trace.keeping.Emits (Action.ofContract .readSymbol (desk.contractAt contract).symbol).run
      (ReadsContract desk.settings.rpcUrl .readSymbol contract "symbol()" (Contract.reading Abi.decodeString)) := by
  refine trace.keeping.emits_adapt_run (trace.keeping.emits_mono
    (desk.ask_kept seen contract (dataOf_nil "symbol()") Abi.decodeString) ?_)
  rintro log _ ⟨reply, rfl, posts⟩
  exact ⟨reply, rfl, posts⟩

theorem readsDecimals_kept (contract : Address) :
    trace.keeping.Emits (Action.ofContract .readDecimals (Erc20.mk (desk.contractAt contract)).decimals).run
      (ReadsContract desk.settings.rpcUrl .readDecimals contract "decimals()" decimalsIn) := by
  refine trace.keeping.emits_adapt_run (trace.keeping.emits_bind_run
    (desk.ask_kept seen contract (dataOf_nil "decimals()") Abi.decodeUint8) ?_ ?_)
  · rintro log cause ⟨reply, failed, posts⟩
    exact ⟨reply, by rw [decimalsIn, ← failed]; rfl, posts⟩
  · rintro log places ⟨reply, given, posts⟩
    rw [← List.append_nil log] at posts
    exact trace.keeping.emits_liftM_run ⟨reply, by rw [decimalsIn, ← given]; rfl, posts⟩

theorem readsFile_kept (path : String) :
    trace.keeping.Emits (Action.ofHost <| (desk.host.files.readText path).adapt fun fault =>
      .during (.readBatchFile path) (.file fault)).run (ReadsFile path) := by
  refine Trace.emits_keeping_lift (trace.emits_adapt_run (trace.emits_mono (seen.readText path) ?_))
  rintro _ text rfl
  exact ⟨text, rfl, rfl⟩

theorem readsChain_seen :
    (trace.beside Session).Emits (batchChain desk).run (ReadsChain desk.settings) := by
  unfold batchChain ReadsChain
  split
  · refine (trace.beside Session).emits_adapt_run ((trace.beside Session).emits_mono
      (Trace.emits_through_iff.mp (desk.transport_heard seen).networkId) ?_)
    rintro log answer ⟨_, told, rfl⟩
    obtain ⟨part, _, rfl, wire, ⟨⟩⟩ := told.of_cons
    rw [List.append_nil]
    exact ⟨answer, wire, rfl⟩
  · exact (trace.beside Session).emits_pure_run ⟨rfl, rfl⟩

theorem readTerms_seen (path : String) (contract payer : Address) :
    (trace.beside Session).Emits (desk.readTerms path contract payer).run
      (ReadsTerms desk.settings path contract payer) := by
  refine Trace.emits_after_kept (desk.readsFile_kept seen path) fun source =>
    Trace.emits_after_kept (desk.readsDecimals_kept seen contract) fun decimals =>
      Trace.emits_after_kept (desk.readsSymbol_kept seen contract) fun symbol =>
        (trace.beside Session).emits_chained (desk.readsChain_seen seen) fun chain => ?_
  refine (trace.beside Session).emits_bind_liftM_run ?_ ?_
  · intro cause failed
    exact ⟨rfl, by rw [failed]; rfl⟩
  · intro plan given
    exact (trace.beside Session).emits_pure_run ⟨rfl, by rw [given]; rfl⟩

end Desk

end TokenDesk
